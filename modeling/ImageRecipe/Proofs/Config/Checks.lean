import Mathlib.Data.List.Induction
import Mathlib.Data.List.Lex
import ImageRecipe.Config.Checks
import ImageRecipe.Proofs.Argument
import ImageRecipe.Proofs.Outcome
import ImageRecipe.Text.Trim

/-!
The checks of a configuration by itself. Names that come again are found before arguments are looked
at, and what passes both asks for the highest version that any of its features needs. The order of
the assemblies decides which name is blamed and nothing else.
-/
namespace ImageRecipe

/-- The name at the first place whose name stands at an earlier place already. -/
def FirstRepeat (names : List String) (name : String) : Prop :=
  ∃ before after, names = before ++ name :: after ∧ before.Nodup ∧ name ∈ before

/-- The numbers between the dots of a version. Versions are compared by them, from the front. -/
def versionNumbers (version : String) : List Nat :=
  (Text.pieces '.' version).map fun part => Nat.ofDigitChars 10 part.toList 0

namespace Config

def names (c : Config) : List String := c.assemblies.map Assembly.name

def LacksToken (c : Config) : Prop :=
  c.cmd = some (.exec []) ∨ c.entrypoint = some (.exec []) ∨ c.shell = some (.exec [])

inductive Needs (c : Config) : String → Prop where
  | cacheFrom : c.cacheFrom ≠ [] → Needs c "1.25"
  | healthCheck : c.healthCheck ≠ none → Needs c "1.24"
  | buildArgs : c.buildArgs ≠ none → Needs c "1.21"

/-- The highest version that is needed, if any is. -/
def Highest (c : Config) : Option String → Prop
  | none => ∀ version, ¬ c.Needs version
  | some version =>
    c.Needs version ∧ ∀ other, c.Needs other → versionNumbers other ≤ versionNumbers version

/-- How the checks end. -/
inductive Verdict (c : Config) : Except Fault (Option ApiVersion) → Prop where
  | repeated {name : String} : FirstRepeat c.names name →
      Verdict c (.error (.duplicateAssemblyName name))
  | lacksToken : c.names.Nodup → c.LacksToken → Verdict c (.error .malformedArgument)
  | passed {version : Option ApiVersion} : c.names.Nodup → ¬ c.LacksToken →
      c.Highest (version.map ApiVersion.text) → Verdict c (.ok version)

end Config

variable {seen names : List String} {name : String}

theorem firstRepeat?_append {before : List String} (distinct : before.Nodup)
    (fresh : ∀ name ∈ before, name ∉ seen) (rest : List String) :
    firstRepeat? seen (before ++ rest) = firstRepeat? (before.reverse ++ seen) rest := by
  induction before generalizing seen with
  | nil => rfl
  | cons first before ih =>
    rw [List.nodup_cons] at distinct
    rw [List.forall_mem_cons] at fresh
    have new : ∀ name ∈ before, name ∉ first :: seen := by
      intro name member known
      rcases List.mem_cons.mp known with rfl | known
      · exact distinct.1 member
      · exact fresh.2 name member known
    rw [List.cons_append, firstRepeat?, if_neg fresh.1, ih distinct.2 new, List.reverse_cons,
      List.append_assoc, List.singleton_append]

theorem firstRepeat?_of_nodup (distinct : names.Nodup) : firstRepeat? [] names = none := by
  rw [← List.append_nil names, firstRepeat?_append distinct (by simp), firstRepeat?]

theorem FirstRepeat.eq_some (repeated : FirstRepeat names name) :
    firstRepeat? [] names = some name := by
  obtain ⟨before, after, rfl, distinct, again⟩ := repeated
  rw [firstRepeat?_append distinct (by simp), firstRepeat?, if_pos (by simpa using again)]

theorem FirstRepeat.not_nodup (repeated : FirstRepeat names name) : ¬ names.Nodup := by
  intro distinct
  have found := repeated.eq_some
  rw [firstRepeat?_of_nodup distinct] at found
  cases found

/-- Of the names that lead up to a repeat, the shortest that hold one end with the first. -/
theorem exists_firstRepeat (shared : ¬ names.Nodup) : ∃ name, FirstRepeat names name := by
  induction names using List.reverseRecOn with
  | nil => exact absurd List.nodup_nil shared
  | append_singleton names last ih =>
    by_cases distinct : names.Nodup
    · have again : last ∈ names := by
        by_contra once
        refine shared (List.nodup_append.mpr ⟨distinct, by simp, ?_⟩)
        rintro name member _ (_ | ⟨_, ⟨⟩⟩) rfl
        exact once member
      exact ⟨last, names, [], rfl, distinct, again⟩
    · obtain ⟨name, before, after, rfl, parts⟩ := ih distinct
      exact ⟨name, before, after ++ [last], by simp, parts⟩

theorem ApiVersion.text_injective : Function.Injective ApiVersion.text := by
  intro v w same
  cases v <;> cases w <;> first | rfl | exact absurd same (by decide)

namespace Config

variable {c : Config} {version : Option ApiVersion} {outcome : Except Fault (Option ApiVersion)}

theorem validate_eq (c : Config) :
    c.validate =
      match firstRepeat? [] c.names with
      | some name => .error (.duplicateAssemblyName name)
      | none => (c.arguments.forM Argument.check).map fun _ => c.apiVersion := by
  rw [validate, names]
  cases firstRepeat? [] (c.assemblies.map Assembly.name) with
  | some name => rfl
  | none => cases c.arguments.forM Argument.check <;> rfl

theorem validate_bind {α : Type} (c : Config) (x : Except Fault α) :
    (c.validate >>= fun _ => x) =
      match firstRepeat? [] c.names with
      | some name => .error (.duplicateAssemblyName name)
      | none => c.arguments.forM Argument.check >>= fun _ => x := by
  rw [validate_eq]
  cases firstRepeat? [] c.names with
  | some name => rfl
  | none => cases c.arguments.forM Argument.check <;> rfl

theorem lacksToken_iff : c.LacksToken ↔ .exec [] ∈ c.arguments := by
  simp [LacksToken, arguments]

theorem check_arguments (lacks : ¬ c.LacksToken) : c.arguments.forM Argument.check = .ok () := by
  rw [lacksToken_iff] at lacks
  rw [forM_eq_ok_iff]
  intro a member
  rw [Argument.check_eq_ok_iff]
  rintro rfl
  exact lacks member

theorem refuse_arguments (lacks : c.LacksToken) :
    c.arguments.forM Argument.check = .error .malformedArgument := by
  cases checked : c.arguments.forM Argument.check with
  | ok _ =>
    have passes := forM_eq_ok_iff.mp checked _ (lacksToken_iff.mp lacks)
    exact absurd rfl (Argument.check_eq_ok_iff.mp passes)
  | error fault =>
    obtain ⟨a, _, refused⟩ := exists_of_forM_eq_error checked
    rw [Argument.fault_of_check refused]

/-- The version that is asked for is the one of the newest feature in use. -/
theorem highest_apiVersion (c : Config) : c.Highest (c.apiVersion.map ApiVersion.text) := by
  by_cases uncached : c.cacheFrom = []
  · by_cases unprobed : c.healthCheck = none
    · by_cases bare : c.buildArgs = none
      · have version : c.apiVersion = none := by simp [apiVersion, uncached, unprobed, bare]
        rw [version]
        rintro _ (used | used | used)
        · exact used uncached
        · exact used unprobed
        · exact used bare
      · have version : c.apiVersion = some .buildArgs := by
          simp [apiVersion, uncached, unprobed, Option.isSome_iff_ne_none, bare]
        rw [version]
        refine ⟨.buildArgs bare, ?_⟩
        rintro _ (used | used | _)
        · exact absurd uncached used
        · exact absurd unprobed used
        · decide
    · have version : c.apiVersion = some .healthCheck := by
        simp [apiVersion, uncached, Option.isSome_iff_ne_none, unprobed]
      rw [version]
      refine ⟨.healthCheck unprobed, ?_⟩
      rintro _ (used | _ | _)
      · exact absurd uncached used
      · decide
      · decide
  · have version : c.apiVersion = some .cacheFrom := by simp [apiVersion, uncached]
    rw [version]
    refine ⟨.cacheFrom uncached, ?_⟩
    rintro _ (_ | _ | _) <;> decide

theorem Highest.unique {v w : Option String} (first : c.Highest v) (second : c.Highest w) :
    v = w := by
  cases v with
  | none =>
    cases w with
    | none => rfl
    | some w => exact absurd second.1 (first w)
  | some v =>
    cases w with
    | none => exact absurd first.1 (second v)
    | some w =>
      have above := first.2 w second.1
      have below := second.2 v first.1
      -- of two different versions one is below the other, and then the reverse fails
      cases first.1 <;> cases second.1 <;>
        first
        | rfl
        | exact absurd above (by decide)
        | exact absurd below (by decide)

theorem highest_iff : c.Highest (version.map ApiVersion.text) ↔ version = c.apiVersion := by
  constructor
  · intro highest
    exact Option.map_injective ApiVersion.text_injective (highest.unique c.highest_apiVersion)
  · rintro rfl
    exact c.highest_apiVersion

theorem validate_of_verdict (verdict : c.Verdict outcome) : c.validate = outcome := by
  rw [validate_eq]
  cases verdict with
  | repeated repeated => rw [repeated.eq_some]
  | lacksToken distinct lacks => rw [firstRepeat?_of_nodup distinct, refuse_arguments lacks]; rfl
  | passed distinct filled highest =>
    rw [firstRepeat?_of_nodup distinct, check_arguments filled, highest_iff.mp highest]
    rfl

theorem exists_verdict (c : Config) : ∃ outcome, c.Verdict outcome := by
  by_cases distinct : c.names.Nodup
  · by_cases lacks : c.LacksToken
    · exact ⟨_, .lacksToken distinct lacks⟩
    · exact ⟨_, .passed distinct lacks c.highest_apiVersion⟩
  · obtain ⟨name, repeated⟩ := exists_firstRepeat distinct
    exact ⟨_, .repeated repeated⟩

theorem validate_eq_iff : c.validate = outcome ↔ c.Verdict outcome := by
  constructor
  · rintro rfl
    obtain ⟨outcome, verdict⟩ := exists_verdict c
    rwa [validate_of_verdict verdict]
  · exact validate_of_verdict

theorem validate_eq_ok_iff :
    c.validate = .ok version ↔ c.names.Nodup ∧ ¬ c.LacksToken ∧
      c.Highest (version.map ApiVersion.text) := by
  rw [validate_eq_iff]
  constructor
  · rintro (_ | _ | ⟨distinct, filled, highest⟩)
    exact ⟨distinct, filled, highest⟩
  · rintro ⟨distinct, filled, highest⟩
    exact .passed distinct filled highest

theorem fault_of_validate {fault : Fault} (failed : c.validate = .error fault) :
    (∃ name, fault = .duplicateAssemblyName name) ∨ fault = .malformedArgument := by
  rcases validate_eq_iff.mp failed with repeated | _
  · exact .inl ⟨_, rfl⟩
  · exact .inr rfl

theorem exists_duplicate_iff :
    (∃ name, c.validate = .error (.duplicateAssemblyName name)) ↔ ¬ c.names.Nodup := by
  constructor
  · rintro ⟨name, failed⟩
    cases validate_eq_iff.mp failed with
    | repeated repeated => exact repeated.not_nodup
  · intro shared
    obtain ⟨name, repeated⟩ := exists_firstRepeat shared
    exact ⟨name, validate_of_verdict (.repeated repeated)⟩

theorem validate_reorder {assemblies : List Assembly} (reordered : assemblies.Perm c.assemblies) :
    { c with assemblies := assemblies }.validate = .ok version ↔ c.validate = .ok version := by
  have names : { c with assemblies := assemblies }.names.Nodup ↔ c.names.Nodup :=
    (reordered.map Assembly.name).nodup_iff
  rw [validate_eq_ok_iff, validate_eq_ok_iff, names, highest_iff, highest_iff]
  rfl

/-- The checks end as their verdict says. They find a name that comes again exactly if not all names
differ. In another order of the assemblies they fail where they failed and ask for the version they
asked for. -/
theorem validate_verdict (c : Config) :
    (∀ outcome, c.validate = outcome ↔ c.Verdict outcome) ∧
    ((∃ name, c.validate = .error (.duplicateAssemblyName name)) ↔ ¬ c.names.Nodup) ∧
    ∀ assemblies : List Assembly, assemblies.Perm c.assemblies →
      ((∃ fault, { c with assemblies := assemblies }.validate = .error fault) ↔
        ∃ fault, c.validate = .error fault) ∧
      ∀ version, { c with assemblies := assemblies }.validate = .ok version ↔
        c.validate = .ok version := by
  refine ⟨fun _ => validate_eq_iff, exists_duplicate_iff, fun assemblies reordered => ⟨?_, ?_⟩⟩
  · rw [exists_error_iff, exists_error_iff]
    exact not_congr (exists_congr fun _ => validate_reorder reordered)
  · exact fun version => validate_reorder reordered

def shared : Config :=
  { cmd := some (.exec [])
    assemblies := [{ name := "a" }, { name := "a" }, { name := "b" }, { name := "b" }] }

def probed : Config :=
  { healthCheck := some .disabled
    assemblies := [{}, { name := "b" }]
    buildArgs := some .empty }

theorem validate_verdict_shared :
    shared.Verdict (.error (.duplicateAssemblyName "a")) ∧
    { shared with assemblies := shared.assemblies.reverse }.validate =
      .error (.duplicateAssemblyName "b") ∧
    (∃ fault, { shared with assemblies := shared.assemblies.reverse }.validate = .error fault) ∧
    probed.Verdict (.ok (some .healthCheck)) ∧
    { probed with assemblies := probed.assemblies.reverse }.validate = .ok (some .healthCheck) := by
  obtain ⟨blamed, _, failing⟩ := validate_verdict shared
  obtain ⟨passed, _, passing⟩ := validate_verdict probed
  refine ⟨(blamed _).mp rfl, rfl, ?_, (passed _).mp rfl, ?_⟩
  · exact (failing _ (List.reverse_perm _)).1.mpr ⟨_, rfl⟩
  · exact ((passing _ (List.reverse_perm _)).2 _).mpr rfl

end Config

end ImageRecipe
