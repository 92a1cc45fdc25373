import ImageRecipe.Proofs.Dockerfile.Layout
import ImageRecipe.Proofs.Dockerfile.Quoting
import ImageRecipe.Proofs.Text.Cutting
import ImageRecipe.Proofs.Text.Lines

namespace ImageRecipe

open Text

namespace KeyValue

/-- Whatever stands before an escaped value, it is not cut, and the quote behind it ends every
escape. -/
theorem carry_escapes {value inner : List Char} (escapes : Escapes value inner) (escaped : Bool) :
    carry escaped (inner ++ ['"']) = some false := by
  induction escapes generalizing escaped with
  | nil => cases escaped <;> rfl
  | escaped _ _ ih =>
    rw [List.cons_append, List.cons_append, carry, if_neg (by simp), carry, if_neg (by simp)]
    exact ih _
  | plain _ _ notNewline _ ih =>
    rw [List.cons_append, carry, if_neg fun h => notNewline h.1]
    exact ih _

theorem whole_encode (value : List Char) : Whole (encode value) := by
  by_cases needs : NeedsQuotes value
  · rw [encode_of_needsQuotes needs]
    exact carry_escapes (escapes_escape value) false
  · rw [encode_of_bare needs]
    apply whole_of_forall
    intro c member
    obtain ⟨_, _, notBackslash, notNewline⟩ := free_of_bare needs c member
    exact ⟨notNewline, notBackslash⟩

theorem whole_token {key : String} (value : String) (plain : Plain key) :
    Whole (token key value).toList := by
  have front : Whole (key ++ "=").toList := (plain.append (by decide)).whole
  rw [token, String.toList_append, String.toList_ofList]
  exact front.append (whole_encode value.toList)

end KeyValue

def Argument.texts : Argument → List String
  | shell command => [command]
  | exec tokens => tokens

def HealthCheck.times : HealthCheck → List String
  | probe p => p.interval.toList ++ p.timeout.toList ++ p.startPeriod.toList
  | disabled => []

def CopyRule.texts (rule : CopyRule) : List String :=
  [rule.source, rule.destination] ++ rule.placement.target.toList ++ rule.placement.user.toList

/-- Every text but the values of environment and labels is plain. Ports need no condition, since
the check of ports lets plain texts pass only. -/
structure Recipe.PlainTexts (r : Recipe) : Prop where
  baseImage : ∀ s ∈ r.baseImage, Plain s
  maintainer : ∀ s ∈ r.maintainer, Plain s
  workdir : ∀ s ∈ r.workdir, Plain s
  baseDir : Plain r.baseDir
  assemblyUser : ∀ s ∈ r.assemblyUser, Plain s
  user : ∀ s ∈ r.user, Plain s
  arguments : ∀ a ∈ r.arguments, ∀ s ∈ a.texts, Plain s
  times : ∀ check ∈ r.healthCheck, ∀ s ∈ check.times, Plain s
  copies : ∀ rule ∈ r.copies, ∀ s ∈ rule.texts, Plain s
  runs : ∀ s ∈ r.runs, Plain s
  envKeys : ∀ s ∈ r.env.keys, Plain s
  labelKeys : ∀ s ∈ r.labels.keys, Plain s
  volumes : ∀ s ∈ r.volumes, Plain s

theorem plain_tokenArray {tokens : List String} (plain : ∀ s ∈ tokens, Plain s) :
    Plain (tokenArray tokens) := by
  have inner : Plain ("\",\"".intercalate tokens) := Plain.intercalate (by decide) plain
  have opened : Plain ("[\"" ++ "\",\"".intercalate tokens) := Plain.append (by decide) inner
  exact opened.append (by decide)

theorem plain_encode {a : Argument} (plain : ∀ s ∈ a.texts, Plain s) : Plain a.encode := by
  cases a with
  | shell command => exact plain command List.mem_cons_self
  | exec tokens => exact plain_tokenArray plain

theorem plain_encodeTokens {a : Argument} (plain : ∀ s ∈ a.texts, Plain s) :
    Plain a.encodeTokens := by
  apply plain_tokenArray
  intro s token
  cases a with
  | shell command =>
    have whole : Plain command := plain command List.mem_cons_self
    exact whole.of_subset fun _ member => mem_of_mem_words token member
  | exec tokens => exact plain s token

theorem plain_normalize {entry port : String} (accepted : Port.normalize entry = .ok port) :
    Plain port := by
  obtain ⟨_, _, digits⟩ := Port.normalize_eq_ok_iff.mp accepted
  obtain ⟨suffix, same, known⟩ := Port.withoutProtocol_append port.toList
  have end_plain : ∀ c ∈ suffix, c ≠ '\n' ∧ c ≠ '\\' := by
    rcases known with rfl | ⟨p, protocol, rfl⟩
    · intro c member; cases member
    · have both : ∀ p ∈ Port.protocols, Plain p := by decide
      exact both p protocol
  intro c member
  rw [same] at member
  rcases List.mem_append.mp member with number | ending
  · have digit := digits c number
    constructor
    · rintro rfl; cases digit
    · rintro rfl; cases digit
  · exact end_plain c ending

theorem isDigit_of_mem_repr {n : Nat} {c : Char} (member : c ∈ n.repr.toList) :
    c.isDigit = true := by
  rw [Nat.toList_repr] at member
  exact Nat.isDigit_of_mem_toDigits (by decide) (by decide) member

theorem plain_repr (n : Nat) : Plain n.repr := by
  intro c member
  have digit := isDigit_of_mem_repr member
  constructor
  · rintro rfl; cases digit
  · rintro rfl; cases digit

namespace Ownership

theorem plain_chown {parts : List String} {chown : String} (plain : ∀ s ∈ parts, Plain s)
    (given : (ofComponents parts).chown = some chown) : Plain chown := by
  match parts, given with
  | [], given => cases given
  | [owner], given =>
    simp only [ofComponents] at given
    split at given
    · cases given
    · cases given
      exact plain _ List.mem_cons_self
  | owner :: group :: _, given =>
    have first := plain owner List.mem_cons_self
    have second := plain group (.tail owner List.mem_cons_self)
    simp only [ofComponents] at given
    split at given
    · cases given
    · split at given
      · cases given
        exact first
      · cases given
        exact (first.append (by decide)).append second

theorem plain_continueAs {parts : List String} {next : String} (plain : ∀ s ∈ parts, Plain s)
    (given : (ofComponents parts).continueAs = some next) : Plain next := by
  simp only [ofComponents, Option.filter_eq_some_iff] at given
  exact plain next (List.mem_of_getElem? given.1)

theorem plain_components {user : String} (plain : Plain user) :
    ∀ s ∈ components user, Plain s := by
  intro s part
  apply plain.of_subset
  intro c member
  exact mem_of_mem_dropEnd (mem_of_mem_pieces part member)

end Ownership

namespace Recipe

variable {r : Recipe} {instructions part : List Instruction}

theorem plain_targetDir (plain : r.PlainTexts) {rule : CopyRule} (known : rule ∈ r.copies) :
    Plain (r.targetDir rule) := by
  have chosen : Plain (rule.placement.target.getD r.baseDir) := by
    cases target : rule.placement.target with
    | none => exact plain.baseDir
    | some dir => exact plain.copies rule known dir (by simp [CopyRule.texts, target])
  simp only [targetDir]
  split
  · decide
  · exact chosen

theorem plain_copyUser (plain : r.PlainTexts) {rule : CopyRule} (known : rule ∈ r.copies)
    {user : String} (owner : r.copyUser rule = some user) : Plain user := by
  rcases Option.or_eq_some_iff.mp owner with own | ⟨_, common⟩
  · exact plain.copies rule known user (by simp [CopyRule.texts, own])
  · exact plain.assemblyUser user common

theorem plain_copyInstruction (plain : r.PlainTexts) {rule : CopyRule} (known : rule ∈ r.copies)
    {chown : Option String} (owners : ∀ s ∈ chown, Plain s) :
    ∀ arg ∈ (r.copyInstruction rule chown).args, Plain arg := by
  have source : Plain rule.source := plain.copies rule known _ (by simp [CopyRule.texts])
  have destination : Plain rule.destination :=
    plain.copies rule known _ (by simp [CopyRule.texts])
  have place : Plain (r.targetDir rule ++ "/" ++ rule.destination) :=
    ((plain_targetDir plain known).append (by decide)).append destination
  intro arg member
  rcases List.mem_append.mp member with flag | rest
  · cases chown with
    | none => cases flag
    | some owner =>
      rw [List.mem_singleton.mp flag]
      exact Plain.append (by decide) (owners owner rfl)
  · simp only [List.mem_cons, List.not_mem_nil, or_false] at rest
    rcases rest with rfl | rfl
    · exact source
    · exact place

theorem plain_copyGroup (plain : r.PlainTexts) {rule : CopyRule} (known : rule ∈ r.copies)
    {group : List Instruction} (written : r.CopyGroup rule group) :
    ∀ i ∈ group, ∀ arg ∈ i.args, Plain arg := by
  have owned {user : String} (owner : r.copyUser rule = some user) :=
    Ownership.plain_components (plain_copyUser plain known owner)
  have copy {user : String} (owner : r.copyUser rule = some user) :=
    plain_copyInstruction plain known fun _ given => Ownership.plain_chown (owned owner) given
  intro i member
  cases written with
  | unowned _ =>
    rw [List.mem_singleton.mp member]
    exact plain_copyInstruction plain known fun _ absent => by cases absent
  | owned owner _ =>
    rw [List.mem_singleton.mp member]
    exact copy owner
  | bracketed owner goesOn =>
    have next := Ownership.plain_continueAs (owned owner) goesOn
    simp only [List.mem_cons, List.not_mem_nil, or_false] at member
    rcases member with rfl | rfl | rfl
    · intro arg root
      rw [List.mem_singleton.mp root]
      decide
    · exact copy owner
    · intro arg user
      rw [List.mem_singleton.mp user]
      exact next

theorem plain_volume (plain : r.PlainTexts) :
    ∀ path ∈ r.volumePaths.filterMap volume?, Plain path := by
  have given : ∀ path ∈ r.volumePaths, Plain path := by
    intro path member
    simp only [volumePaths, List.mem_append, List.mem_map, List.mem_filter] at member
    rcases member with (⟨rule, ⟨known, _⟩, rfl⟩ | base) | listed
    · exact plain_targetDir plain known
    · split at base
      · rw [List.mem_singleton.mp base]
        exact plain.baseDir
      · cases base
    · exact plain.volumes path listed
  intro path member
  obtain ⟨entry, there, cut⟩ := List.mem_filterMap.mp member
  simp only [volume?] at cut
  split at cut
  · cases cut
  · cases cut
    exact (given entry there).of_subset fun _ inside => mem_of_mem_dropEnd inside

theorem value_of_mem_options {p : Probe} {option : ProbeOption × String}
    (member : option ∈ p.options) :
    option.2 ∈ (HealthCheck.probe p).times ∨ ∃ n : Nat, option.2 = n.repr := by
  simp only [Probe.options, List.mem_append, Option.mem_toList, Option.map_eq_some_iff] at member
  rcases member with ((⟨v, set, rfl⟩ | ⟨v, set, rfl⟩) | ⟨v, set, rfl⟩) | ⟨n, _, rfl⟩
  · exact .inl (by simp [HealthCheck.times, set])
  · exact .inl (by simp [HealthCheck.times, set])
  · exact .inl (by simp [HealthCheck.times, set])
  · exact .inr ⟨n.toNat, rfl⟩

theorem plain_options {p : Probe} (plain : ∀ s ∈ (HealthCheck.probe p).times, Plain s) :
    ∀ option ∈ p.options, Plain (option.1.flag option.2) := by
  have flag (option : ProbeOption) {value : String} (given : Plain value) :
      Plain (option.flag value) := by
    have name : Plain ("--" ++ option.name ++ "=") := by cases option <;> decide
    exact name.append given
  intro option member
  rcases value_of_mem_options member with time | ⟨n, number⟩
  · exact flag option.1 (plain option.2 time)
  · rw [number]
    exact flag option.1 (plain_repr n)

theorem plain_healthCheck (plain : r.PlainTexts) {check : HealthCheck}
    (set : r.healthCheck = some check) : ∀ arg ∈ check.instruction.args, Plain arg := by
  intro arg member
  cases check with
  | disabled =>
    rw [List.mem_singleton.mp member]
    decide
  | probe p =>
    have listed : p.command ∈ r.arguments := by simp [arguments, set, HealthCheck.command?]
    have command := plain_encode (plain.arguments p.command listed)
    rcases List.mem_append.mp member with option | nested
    · obtain ⟨pair, there, rfl⟩ := List.mem_map.mp option
      exact plain_options (plain.times _ set) pair there
    · rw [List.mem_singleton.mp nested]
      apply Plain.intercalate (by decide)
      intro part inside
      simp only [List.mem_cons, List.not_mem_nil, or_false] at inside
      rcases inside with rfl | rfl
      · decide
      · exact command

theorem plain_oneIfSet {α : Type} {value : Option α} {instruction : α → Instruction}
    (one : OneIfSet value instruction part)
    (plain : ∀ a, value = some a → ∀ arg ∈ (instruction a).args, Plain arg) :
    ∀ i ∈ part, ∀ arg ∈ i.args, Plain arg := by
  intro i member
  obtain ⟨a, set, rfl⟩ := one.exists_of_mem member
  exact plain a set

theorem plain_singleton {k : Keyword} {s : String} (plain : Plain s) :
    ∀ arg ∈ (Instruction.mk k [s]).args, Plain arg := by
  intro arg member
  rw [List.mem_singleton.mp member]
  exact plain

theorem section_plain (plain : r.PlainTexts) {k : Keyword} (notEnv : k ≠ .env)
    (notLabel : k ≠ .label) (holds : r.Section k part) : ∀ i ∈ part, ∀ arg ∈ i.args, Plain arg := by
  cases k with
  | env => exact absurd rfl notEnv
  | label => exact absurd rfl notLabel
  | image =>
    intro i member
    rw [holds, List.mem_singleton] at member
    rw [member]
    apply plain_singleton
    cases named : r.baseImage with
    | none => rw [image, named]; decide
    | some base => rw [image, named]; exact plain.baseImage base named
  | maintainer =>
    exact plain_oneIfSet holds fun name set => plain_singleton (plain.maintainer name set)
  | workdir => exact plain_oneIfSet holds fun dir set => plain_singleton (plain.workdir dir set)
  | user => exact plain_oneIfSet holds fun name set => plain_singleton (plain.user name set)
  | shell =>
    refine plain_oneIfSet holds fun a set => plain_singleton (plain_encodeTokens ?_)
    exact plain.arguments a (by simp [arguments, set])
  | cmd =>
    refine plain_oneIfSet holds fun a set => plain_singleton (plain_encode ?_)
    exact plain.arguments a (by simp [arguments, set])
  | entrypoint =>
    refine plain_oneIfSet holds fun a set => plain_singleton (plain_encode ?_)
    exact plain.arguments a (by simp [arguments, set])
  | healthcheck => exact plain_oneIfSet holds fun check set => plain_healthCheck plain set
  | expose =>
    obtain ⟨ports, accepted, one⟩ := holds
    intro i member arg there
    rw [one.eq_of_mem member] at there
    obtain ⟨entry, _, normal⟩ := forall₂_exists accepted arg there
    exact plain_normalize normal
  | copy =>
    obtain ⟨groups, written, rfl⟩ := holds
    intro i member
    obtain ⟨group, there, inside⟩ := List.mem_flatten.mp member
    obtain ⟨rule, known, instructions⟩ := forall₂_exists written group there
    exact plain_copyGroup plain known instructions i inside
  | run =>
    intro i member
    obtain ⟨command, rfl, rfl | there⟩ := section_run_mem holds i member
    · exact plain_singleton (Plain.intercalate (by decide) plain.runs)
    · exact plain_singleton (plain.runs command there)
  | volume =>
    intro i member
    rw [holds] at member
    obtain ⟨path, there, rfl⟩ := List.mem_map.mp member
    apply plain_singleton
    apply plain_tokenArray
    intro s single
    rw [List.mem_singleton.mp single]
    exact plain_volume plain path there

theorem whole_tokens {entries : List (String × String)}
    (plain : ∀ key ∈ entries.map Prod.fst, Plain key) :
    ∀ arg ∈ KeyValue.tokens entries, Whole arg.toList := by
  intro arg member
  obtain ⟨entry, there, rfl⟩ := List.mem_map.mp member
  exact KeyValue.whole_token entry.2 (plain entry.1 (List.mem_map_of_mem there))

theorem section_whole (plain : r.PlainTexts) {k : Keyword} (holds : r.Section k part) :
    ∀ i ∈ part, ∀ arg ∈ i.args, Whole arg.toList := by
  have entries {items : List (String × String)} (keys : ∀ key ∈ items.map Prod.fst, Plain key)
      (one : OneIfAny items ⟨k, KeyValue.tokens items⟩ part) :
      ∀ i ∈ part, ∀ arg ∈ i.args, Whole arg.toList := by
    intro i member
    rw [one.eq_of_mem member]
    exact whole_tokens keys
  by_cases env : k = .env
  · subst env
    exact entries plain.envKeys holds
  · by_cases label : k = .label
    · subst label
      exact entries plain.labelKeys holds
    · exact fun i member arg there => (section_plain plain env label holds i member arg there).whole

theorem whole_inline {i : Instruction} (args : ∀ arg ∈ i.args, Whole arg.toList) :
    Whole i.inline.toList := by
  have space : Whole " ".toList := rfl
  rw [Instruction.inline, String.toList_intercalate]
  apply space.intercalate
  intro part member
  obtain ⟨s, there, rfl⟩ := List.mem_map.mp member
  rcases List.mem_cons.mp there with rfl | arg
  · cases i.keyword <;> rfl
  · exact args s arg

end Recipe

theorem lines_dockerfileText {instructions : List Instruction}
    (whole : ∀ i ∈ instructions, Whole i.inline.toList) :
    Text.lines (dockerfileText instructions) = instructions.map Instruction.inline ++ [""] := by
  induction instructions with
  | nil => rfl
  | cons i rest ih =>
    have later := ih fun j member => whole j (.tail i member)
    have first := whole i List.mem_cons_self
    have text : (dockerfileText (i :: rest)).toList =
        i.inline.toList ++ '\n' :: (dockerfileText rest).toList := by
      simp [dockerfileText, Instruction.line]
    rw [Text.lines, text, cutLines_whole _ first, List.map_cons, ← Text.lines, later]
    simp

/-- Where all texts are plain, values of environment and labels apart, cutting a Dockerfile at the
newlines that end a line gives back its instructions, one piece each. -/
theorem render_lines (r : Recipe) (text : String) (rendered : r.render = .ok text)
    (plain : r.PlainTexts) :
    ∃ instructions, r.instructions = .ok instructions ∧ text = dockerfileText instructions ∧
      Text.lines text = instructions.map Instruction.inline ++ [""] := by
  obtain ⟨instructions, written, rfl⟩ := Recipe.render_eq_ok_iff.mp rendered
  refine ⟨instructions, written, rfl, lines_dockerfileText ?_⟩
  obtain ⟨part, holds, rfl⟩ := Recipe.instructions_layout written
  intro i member
  obtain ⟨k, _, inside⟩ := List.mem_flatMap.mp member
  exact Recipe.whole_inline (Recipe.section_whole plain (holds k) i inside)

def Recipe.backslashed : Recipe :=
  { Recipe.start with
    user := some "app"
    env := .ofList [("A", "x\\\ny\\\\\n"), ("B", "\n\"\\\"")]
    labels := .ofList [("C", "\\"), ("D", "\\\nUSER root\n")] }

theorem Recipe.backslashed_plainTexts : Recipe.backslashed.PlainTexts := by
  constructor <;> decide

theorem render_lines_backslashed :
    ∃ text, Recipe.backslashed.render = .ok text ∧
      ∃ instructions, Recipe.backslashed.instructions = .ok instructions ∧
        text = dockerfileText instructions ∧
        Text.lines text = instructions.map Instruction.inline ++ [""] :=
  ⟨_, rfl, render_lines Recipe.backslashed _ rfl Recipe.backslashed_plainTexts⟩

end ImageRecipe
