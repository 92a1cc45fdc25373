import ImageRecipe.Proofs.Dockerfile.Variation
import ImageRecipe.Proofs.Text.Joining

namespace ImageRecipe

/-- A command in which no joint occurs and that does not end in the beginning of one. -/
structure Unjoined (command : String) : Prop where
  inside : ¬ " && ".toList <:+: command.toList
  ending : ¬ " &&".toList <:+ command.toList

theorem clear_of_unjoined {command : String} (unjoined : Unjoined command) :
    Text.Clear " && ".toList command.toList := by
  -- A joint that begins in the command lies in it or takes its last blank from the joint behind it;
  -- it cannot begin later, since a joint and its tail agree in nothing but that blank.
  intro back filled suffix begins
  match back with
  | [] => exact filled rfl
  | [_] => simp at begins
  | [_, _] => simp at begins
  | [a, b, c] =>
    obtain ⟨rfl, rfl, rfl⟩ : ' ' = a ∧ '&' = b ∧ '&' = c := by simpa using begins
    exact unjoined.ending suffix
  | a :: b :: c :: d :: rest =>
    obtain ⟨rfl, rfl, rfl, rfl⟩ : ' ' = a ∧ '&' = b ∧ '&' = c ∧ ' ' = d := by
      simpa using begins
    have first : " && ".toList <+: ' ' :: '&' :: '&' :: ' ' :: rest := List.prefix_append _ rest
    exact unjoined.inside (first.isInfix.trans suffix.isInfix)

def runLines (commands : List String) : List Instruction :=
  commands.map fun command => ⟨.run, [command]⟩

namespace Recipe

variable {r : Recipe}

def optimised (r : Recipe) : Recipe := { r with optimise := true }

def unoptimised (r : Recipe) : Recipe := { r with optimise := false }

theorem layers_optimised (r : Recipe) :
    r.optimised.layers = if r.runs = [] then [] else [" && ".intercalate r.runs] := by
  cases commands : r.runs <;> simp [layers, optimised, commands]

theorem layers_unoptimised (r : Recipe) : r.unoptimised.layers = r.runs := by
  simp [layers, unoptimised]

/-- Nothing is merged where there are fewer than two commands. -/
theorem layers_of_short (short : r.runs.length < 2) :
    r.optimised.layers = r.unoptimised.layers := by
  rw [layers_optimised, layers_unoptimised]
  match commands : r.runs with
  | [] => rfl
  | [command] => simp
  | _ :: _ :: _ =>
    rw [commands, List.length_cons, List.length_cons] at short
    omega

theorem writtenSection_optimise {k : Keyword} (ports : List String) (other : k ≠ .run) :
    r.unoptimised.writtenSection ports k = r.optimised.writtenSection ports k := by
  cases k with
  | run => exact absurd rfl other
  | copy => exact writtenSection_copy_congr rfl rfl rfl
  | _ => rfl

theorem render_of_layers (same : r.optimised.layers = r.unoptimised.layers) :
    r.optimised.render = r.unoptimised.render := by
  have sections (ports : List String) :
      r.optimised.writtenSection ports = r.unoptimised.writtenSection ports := by
    funext k
    by_cases runs : k = .run
    · rw [runs, writtenSection, writtenSection, same]
    · exact (writtenSection_optimise ports runs).symm
  have check : r.optimised.check = r.unoptimised.check := rfl
  simp only [render_eq_map_check, instructionsWith_eq, sections, check]

theorem writes_optimise (r : Recipe) :
    (∃ fault, r.optimised.render = .error fault ∧ r.unoptimised.render = .error fault) ∨
      ∃ front back, (∀ i ∈ front ++ back, i.keyword ≠ .run) ∧
        r.unoptimised.Writes (front ++ runLines r.runs ++ back) ∧
        r.optimised.Writes
          (front ++ (if r.runs = [] then [] else runLines [" && ".intercalate r.runs]) ++
            back) := by
  have check : r.optimised.check = r.unoptimised.check := rfl
  rcases check_cases check with ⟨fault, plain, merged⟩ | ⟨ports, plain, merged⟩
  · exact .inl ⟨fault, merged, plain⟩
  · obtain ⟨front, back, around, first, second⟩ := sections_differ plain
      (by decide : Keyword.order.Nodup) (by decide) (by decide : Keyword.run ≠ .user)
      fun j _ other => writtenSection_optimise ports other
    refine .inr ⟨front, back, around, ?_, ?_⟩
    · have written := writes_of_check plain
      rw [instructionsWith_eq, first, writtenSection, layers_unoptimised] at written
      exact written
    · have written := writes_of_check merged
      rw [instructionsWith_eq, second, writtenSection, layers_optimised] at written
      split at written
      · rename_i none
        rwa [if_pos none]
      · rename_i any
        rwa [if_neg any]

theorem not_run_of_writes {instructions : List Instruction} (none : r.runs = [])
    (writes : r.Writes instructions) : ∀ i ∈ instructions, i.keyword ≠ .run := by
  intro i member run
  have holds := layout_section (by decide : Keyword.run ≠ .user) (by decide)
    (instructions_layout writes.written)
  have empty := holds.2 fun several => several.2 none
  have inside : i ∈ instructions.filter (·.keyword = .run) :=
    List.mem_filter.mpr ⟨member, decide_eq_true run⟩
  rw [empty, none] at inside
  cases inside

/-- Whether a recipe is optimised or not, it fails for the same fault, or gives the same
instructions but for the commands: each has an instruction of its own, or all share one, where they
are joined. That changes nothing for fewer than two commands, and there is no such instruction if
there are none. Commands that look like no joint are read off the shared line again, cutting from
the left; so it does no harm if one begins with the rest of a joint. -/
theorem render_optimised (r : Recipe) :
    ((∃ fault, r.optimised.render = .error fault ∧ r.unoptimised.render = .error fault) ∨
      ∃ front back, (∀ i ∈ front ++ back, i.keyword ≠ .run) ∧
        r.unoptimised.Writes (front ++ runLines r.runs ++ back) ∧
        r.optimised.Writes
          (front ++ (if r.runs = [] then [] else runLines [" && ".intercalate r.runs]) ++ back)) ∧
    (r.runs.length < 2 → r.optimised.render = r.unoptimised.render) ∧
    (r.runs = [] → ∀ instructions, r.optimised.Writes instructions →
      ∀ i ∈ instructions, i.keyword ≠ .run) ∧
    (r.runs ≠ [] → (∀ command ∈ r.runs, Unjoined command) →
      Text.segments " && " (" && ".intercalate r.runs) = r.runs) := by
  have bare (none : r.runs = []) : r.optimised.runs = [] := none
  refine ⟨writes_optimise r, fun short => render_of_layers (layers_of_short short),
    fun none _ writes => not_run_of_writes (bare none) writes, ?_⟩
  intro any unjoined
  exact Text.segments_intercalate (by decide) any fun command member =>
    clear_of_unjoined (unjoined command member)

def layered : Recipe := { start with runs := ["make", "&& ls"], user := some "app" }

theorem render_optimised_layered :
    (∃ front back, layered.unoptimised.Writes
        (front ++ [⟨.run, ["make"]⟩, ⟨.run, ["&& ls"]⟩] ++ back) ∧
      layered.optimised.Writes (front ++ [⟨.run, ["make && && ls"]⟩] ++ back)) ∧
    Text.segments " && " "make && && ls" = ["make", "&& ls"] ∧
    start.optimised.render = start.unoptimised.render ∧
    ∀ instructions, start.optimised.Writes instructions → ∀ i ∈ instructions, i.keyword ≠ .run := by
  obtain ⟨outcome, _, _, commands⟩ := render_optimised layered
  obtain ⟨_, short, none, _⟩ := render_optimised start
  have unjoined : ∀ command ∈ layered.runs, Unjoined command := by
    intro command member
    have known : command = "make" ∨ command = "&& ls" := by simpa [layered] using member
    rcases known with rfl | rfl <;> exact ⟨by decide, by decide⟩
  refine ⟨?_, commands (by decide) unjoined, short (by decide), none rfl⟩
  rcases outcome with ⟨fault, refused, _⟩ | ⟨front, back, _, plain, merged⟩
  · cases refused
  · exact ⟨front, back, plain, merged⟩

end Recipe

end ImageRecipe
