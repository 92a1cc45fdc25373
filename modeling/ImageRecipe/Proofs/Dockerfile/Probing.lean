import ImageRecipe.Proofs.Dockerfile.Lines

/-!
The line of a health check, read back. Its words are the options that are set and then the command.
No option begins like the word in front of the command, so the options end there, whatever the
command says; and where no time holds a space, each option is one word.
-/
namespace ImageRecipe

namespace ProbeOption

def order : List ProbeOption := [.interval, .timeout, .startPeriod, .retries]

def ofWord? (word : String) : Option (ProbeOption × String) :=
  order.findSome? fun option =>
    (Text.rest? (option.flag "").toList word.toList).map fun value =>
      (option, String.ofList value)

/-- The options at the beginning of some words, and the words from the first on that is none. -/
def readWords : List String → List (ProbeOption × String) × List String
  | [] => ([], [])
  | word :: words =>
    match ofWord? word with
    | some option => (option :: (readWords words).1, (readWords words).2)
    | none => ([], word :: words)

theorem toList_flag (option : ProbeOption) (value : String) :
    (option.flag value).toList = (option.flag "").toList ++ value.toList := by
  simp [flag]

theorem eq_of_flag_begins {option other : ProbeOption}
    (begins : (option.flag "").toList <+: (other.flag "").toList) : option = other := by
  revert begins
  cases option <;> cases other <;> decide

theorem rest?_flag (option other : ProbeOption) (value : String) :
    Text.rest? (option.flag "").toList (other.flag value).toList =
      if option = other then some value.toList else none := by
  rw [toList_flag other value]
  split
  · rename_i same
    rw [same, Text.rest?_eq_some_iff]
  · rename_i differ
    rw [Option.eq_none_iff_forall_ne_some]
    intro tail found
    -- Of two beginnings of one word, the shorter one is a beginning of the other.
    have begins : (option.flag "").toList <+: (other.flag "").toList ++ value.toList :=
      ⟨tail, (Text.rest?_eq_some_iff.mp found).symm⟩
    rcases List.prefix_or_prefix_of_prefix begins (List.prefix_append _ _) with short | long
    · exact differ (eq_of_flag_begins short)
    · exact differ (eq_of_flag_begins long).symm

theorem ofWord?_flag (option : ProbeOption) (value : String) :
    ofWord? (option.flag value) = some (option, value) := by
  cases option <;> simp [ofWord?, order, rest?_flag]

theorem readWords_flags (options : List (ProbeOption × String)) {word : String}
    (words : List String) (other : ofWord? word = none) :
    readWords (options.map (fun option => option.1.flag option.2) ++ word :: words) =
      (options, word :: words) := by
  induction options with
  | nil => simp [readWords, other]
  | cons option options ih => simp [readWords, ofWord?_flag, ih]

end ProbeOption

namespace Probe

variable {p q : Probe}

def setting (p : Probe) : ProbeOption → Option String
  | .interval => p.interval
  | .timeout => p.timeout
  | .startPeriod => p.startPeriod
  | .retries => p.retries.map fun n => n.toNat.repr

theorem options_eq (p : Probe) :
    p.options =
      ProbeOption.order.filterMap fun option => (p.setting option).map fun v => (option, v) := by
  rcases p with ⟨_ | _, _ | _, _ | _, _ | _, _⟩ <;> rfl

theorem mem_options_iff {option : ProbeOption} {value : String} :
    (option, value) ∈ p.options ↔ p.setting option = some value := by
  have listed : option ∈ ProbeOption.order := by cases option <;> decide
  simp only [options_eq, List.mem_filterMap, Option.map_eq_some_iff, Prod.mk.injEq]
  constructor
  · rintro ⟨_, _, _, set, rfl, rfl⟩
    exact set
  · intro set
    exact ⟨option, listed, value, set, rfl, rfl⟩

theorem setting_eq (same : p.options = q.options) : p.setting = q.setting := by
  funext option
  apply Option.ext
  intro value
  rw [← mem_options_iff, same, mem_options_iff]

theorem repr_injective : Function.Injective fun n : UInt32 => n.toNat.repr := by
  intro n m written
  have digits := congrArg (fun s : String => Nat.ofDigitChars 10 s.toList 0) written
  simpa [Nat.toList_repr, Nat.ofDigitChars_ten_toDigits, UInt32.toNat_inj] using digits

theorem retries_eq (same : p.setting .retries = q.setting .retries) : p.retries = q.retries :=
  Option.map_injective repr_injective same

end Probe

namespace HealthCheck

/-- Both are switched off, or they have the same options and commands that are written alike. -/
inductive Alike : HealthCheck → HealthCheck → Prop where
  | disabled : Alike .disabled .disabled
  | probe {p q : Probe} : p.interval = q.interval → p.timeout = q.timeout →
      p.startPeriod = q.startPeriod → p.retries = q.retries →
      p.command.encode = q.command.encode → Alike (.probe p) (.probe q)

def Spaceless (h : HealthCheck) : Prop := ∀ time ∈ h.times, ' ' ∉ time.toList

instance (h : HealthCheck) : Decidable h.Spaceless :=
  inferInstanceAs (Decidable (∀ time ∈ h.times, ' ' ∉ time.toList))

def readLine (line : String) : List (ProbeOption × String) × List String :=
  ProbeOption.readWords (Text.pieces ' ' line).tail

variable {p : Probe} {h k : HealthCheck}

theorem spaceless_flag (spaceless : (probe p).Spaceless) :
    ∀ word ∈ p.options.map (fun option => option.1.flag option.2), ' ' ∉ word.toList := by
  have start (option : ProbeOption) : ' ' ∉ (option.flag "").toList := by cases option <;> decide
  intro word member
  obtain ⟨option, there, rfl⟩ := List.mem_map.mp member
  rw [ProbeOption.toList_flag, List.mem_append, not_or]
  refine ⟨start option.1, ?_⟩
  rcases Recipe.value_of_mem_options there with time | ⟨n, number⟩
  · exact spaceless option.2 time
  · intro inside
    rw [number] at inside
    exact absurd (isDigit_of_mem_repr inside) (by decide)

theorem pieces_inline (i : Instruction) :
    Text.pieces ' ' i.inline = i.keyword.text :: i.args.flatMap (Text.pieces ' ') := by
  have keyword : Text.pieces ' ' i.keyword.text = [i.keyword.text] := by
    cases i.keyword <;> decide
  rw [Instruction.inline, Text.pieces_intercalate rfl (List.cons_ne_nil _ _), List.flatMap_cons,
    keyword]
  rfl

theorem readLine_disabled : readLine disabled.instruction.inline = ([], ["NONE"]) := by decide

theorem readLine_probe (spaceless : (probe p).Spaceless) :
    readLine (probe p).instruction.inline =
      (p.options, "CMD" :: Text.pieces ' ' p.command.encode) := by
  have command : Text.pieces ' ' (Instruction.mk .cmd [p.command.encode]).inline =
      "CMD" :: Text.pieces ' ' p.command.encode := by
    simp [pieces_inline, Keyword.text]
  rw [readLine, pieces_inline, List.tail_cons, instruction, List.flatMap_append,
    Text.flatMap_pieces_of_notMem (spaceless_flag spaceless)]
  simp only [List.flatMap_singleton, command]
  exact ProbeOption.readWords_flags p.options _ (by decide)

theorem alike_of_inline (spaceless : h.Spaceless) (otherSpaceless : k.Spaceless)
    (same : h.instruction.inline = k.instruction.inline) : h.Alike k := by
  have read := congrArg readLine same
  cases h with
  | disabled =>
    cases k with
    | disabled => exact .disabled
    | probe q => simp [readLine_disabled, readLine_probe otherSpaceless] at read
  | probe p =>
    cases k with
    | disabled => simp [readLine_disabled, readLine_probe spaceless] at read
    | probe q =>
      rw [readLine_probe spaceless, readLine_probe otherSpaceless] at read
      obtain ⟨options, words⟩ := Prod.mk.inj read
      have settings := congrFun (Probe.setting_eq options)
      have command := Text.pieces_inj (List.cons.inj words).2
      exact .probe (settings .interval) (settings .timeout) (settings .startPeriod)
        (Probe.retries_eq (settings .retries)) command

theorem inline_of_alike (alike : h.Alike k) : h.instruction.inline = k.instruction.inline := by
  cases alike with
  | disabled => rfl
  | probe interval timeout startPeriod retries command =>
    simp only [instruction, Probe.options, interval, timeout, startPeriod, retries, command]

theorem inline_probe (p : Probe) :
    (probe p).instruction.inline =
      " ".intercalate (["HEALTHCHECK"] ++
        ProbeOption.order.filterMap (fun option => (p.setting option).map option.flag) ++
        ["CMD " ++ p.command.encode]) := by
  have command : (Instruction.mk .cmd [p.command.encode]).inline = "CMD " ++ p.command.encode := by
    simp [Instruction.inline, Keyword.text]
  have flags : p.options.map (fun option => option.1.flag option.2) =
      ProbeOption.order.filterMap fun option => (p.setting option).map option.flag := by
    simp [Probe.options_eq, List.map_filterMap, Function.comp_def]
  rw [Instruction.inline, instruction, command, flags]
  rfl

end HealthCheck

namespace Recipe

def RendersCheck (r : Recipe) (text : String) (i : Instruction) : Prop :=
  ∃ instructions, r.instructions = .ok instructions ∧ text = dockerfileText instructions ∧
    instructions.filter (·.keyword = .healthcheck) = [i]

theorem rendersCheck_of_render {r : Recipe} {h : HealthCheck} {text : String}
    (set : r.healthCheck = some h) (rendered : r.render = .ok text) :
    r.RendersCheck text h.instruction := by
  obtain ⟨instructions, written, rfl⟩ := render_eq_ok_iff.mp rendered
  have holds : r.Section .healthcheck (instructions.filter (·.keyword = .healthcheck)) :=
    layout_section (by decide) (by decide) (instructions_layout written)
  exact ⟨instructions, written, rfl, holds.present h set⟩

/-- Where no time holds a space, the line of a health check tells everything about it but the form
of its command, of which it shows the text. The line of a probe has the options that are set, in one
order and with their values, and then the command. -/
theorem render_healthChecks (r s : Recipe) (h k : HealthCheck) (first second : String)
    (set : r.healthCheck = some h) (otherSet : s.healthCheck = some k)
    (rendered : r.render = .ok first) (otherRendered : s.render = .ok second) :
    ∃ i j, r.RendersCheck first i ∧ s.RendersCheck second j ∧
      (h.Spaceless → k.Spaceless → (i.inline = j.inline ↔ h.Alike k)) ∧
      ∀ p, h = .probe p → i.inline =
        " ".intercalate (["HEALTHCHECK"] ++
          ProbeOption.order.filterMap (fun option => (p.setting option).map option.flag) ++
          ["CMD " ++ p.command.encode]) := by
  refine ⟨h.instruction, k.instruction, rendersCheck_of_render set rendered,
    rendersCheck_of_render otherSet otherRendered, ?_, ?_⟩
  · intro spaceless otherSpaceless
    exact ⟨HealthCheck.alike_of_inline spaceless otherSpaceless, HealthCheck.inline_of_alike⟩
  · rintro p rfl
    exact HealthCheck.inline_probe p

def lookalike (command : Argument) : HealthCheck :=
  .probe ⟨some "", none, some "--retries=1", some 4294967295, command⟩

theorem render_healthChecks_lookalike :
    ∃ first second i j,
      ({ start with healthCheck := some (lookalike (.shell "[\"a --timeout=1\"]")) } :
        Recipe).RendersCheck first i ∧
      ({ start with healthCheck := some (lookalike (.exec ["a --timeout=1"])) } :
        Recipe).RendersCheck second j ∧
      i.inline = j.inline ∧
      i.inline =
        "HEALTHCHECK --interval= --start-period=--retries=1 --retries=4294967295 " ++
          "CMD [\"a --timeout=1\"]" := by
  obtain ⟨i, j, one, other, told, line⟩ :=
    render_healthChecks
      { start with healthCheck := some (lookalike (.shell "[\"a --timeout=1\"]")) }
      { start with healthCheck := some (lookalike (.exec ["a --timeout=1"])) }
      _ _ _ _ rfl rfl rfl rfl
  have alike : HealthCheck.Alike (lookalike (.shell "[\"a --timeout=1\"]"))
      (lookalike (.exec ["a --timeout=1"])) := .probe rfl rfl rfl rfl (by decide)
  exact ⟨_, _, i, j, one, other, (told (by decide) (by decide)).mpr alike,
    (line _ rfl).trans (by decide)⟩

end Recipe

end ImageRecipe
