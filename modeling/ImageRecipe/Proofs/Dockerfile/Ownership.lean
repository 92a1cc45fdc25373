import ImageRecipe.Proofs.Dockerfile.Layout
import ImageRecipe.Proofs.Text.Cutting

/-!
For whom content is copied. `Ownership.Copied` says what a user text asks for, by its components and
without the functions that take it apart: a flag with an owner and perhaps a group, and switches of
user around the copy. Whatever the text, nothing half said comes out of it, and no copy leaves the
image with the user it was switched to.
-/
namespace ImageRecipe

namespace Ownership

/-- The texts between the colons of a user, once the colons at its end are gone. -/
structure Parted (user : String) (parts : List String) : Prop where
  filled : parts ≠ []
  free : ∀ part ∈ parts, ':' ∉ part.toList
  joined : Text.Stripped (· = ':') user (":".intercalate parts)

inductive Flags : List String → List String → Prop where
  | absent (others : List String) : Flags ("" :: others) []
  | owner {owner : String} {others : List String} : owner ≠ "" →
      (∀ group, others.head? = some group → group = "") →
        Flags (owner :: others) ["--chown=" ++ owner]
  | group {owner group : String} (others : List String) : owner ≠ "" → group ≠ "" →
      Flags (owner :: group :: others) ["--chown=" ++ (owner ++ ":" ++ group)]

def GoesOn (parts : List String) (next : String) : Prop := parts[2]? = some next ∧ next ≠ ""

/-- The instructions that copy to a place for an owner. -/
inductive Copied (owner : Option String) (place : List String) : List Instruction → Prop where
  | unowned : owner = none → Copied owner place [⟨.copy, place⟩]
  | alone {user : String} {parts flags : List String} : owner = some user → Parted user parts →
      Flags parts flags → (∀ next, ¬ GoesOn parts next) →
        Copied owner place [⟨.copy, flags ++ place⟩]
  | bracketed {user next : String} {parts flags : List String} : owner = some user →
      Parted user parts → Flags parts flags → GoesOn parts next →
        Copied owner place [⟨.user, ["root"]⟩, ⟨.copy, flags ++ place⟩, ⟨.user, [next]⟩]

structure Tidy (i : Instruction) (place : List String) : Prop where
  keyword : i.keyword = .copy
  args : i.args = place ∨ ∃ value, i.args = ("--chown=" ++ value) :: place ∧
    ∀ part ∈ Text.pieces ':' value, part ≠ ""

/-- A copy by itself, or between a switch to root and a switch to a user with a name. -/
inductive Settled (place : List String) : List Instruction → Prop where
  | alone {i : Instruction} : Tidy i place → Settled place [i]
  | bracketed {i : Instruction} {next : String} : Tidy i place → next ≠ "" →
      Settled place [⟨.user, ["root"]⟩, i, ⟨.user, [next]⟩]

theorem parted_iff {user : String} {parts : List String} :
    Parted user parts ↔ components user = parts := by
  have single : ":".toList = [':'] := rfl
  rw [components, Text.pieces_eq_iff single, ← Text.stripped_iff]
  exact ⟨fun h => ⟨h.filled, h.free, h.joined⟩, fun h => ⟨h.1, h.2.1, h.2.2⟩⟩

def flags (o : Ownership) : List String := (o.chown.map ("--chown=" ++ ·)).toList

theorem flags_ofComponents {parts : List String} (filled : parts ≠ []) :
    Flags parts (ofComponents parts).flags := by
  match parts with
  | [] => exact absurd rfl filled
  | [owner] =>
    by_cases unnamed : owner = ""
    · subst unnamed
      exact .absent []
    · have alone : (ofComponents [owner]).flags = ["--chown=" ++ owner] := by
        simp [ofComponents, flags, unnamed]
      rw [alone]
      exact .owner unnamed nofun
  | owner :: group :: others =>
    by_cases unnamed : owner = ""
    · subst unnamed
      exact .absent _
    · by_cases ungrouped : group = ""
      · have alone : (ofComponents (owner :: group :: others)).flags = ["--chown=" ++ owner] := by
          simp [ofComponents, flags, unnamed, ungrouped]
        rw [alone]
        exact .owner unnamed fun _ same => (Option.some.inj same).symm.trans ungrouped
      · have both : (ofComponents (owner :: group :: others)).flags =
            ["--chown=" ++ (owner ++ ":" ++ group)] := by
          simp [ofComponents, flags, unnamed, ungrouped]
        rw [both]
        exact .group others unnamed ungrouped

theorem Flags.eq {parts flags : List String} (asked : Flags parts flags) :
    flags = (ofComponents parts).flags := by
  cases asked with
  | absent others => rfl
  | @owner owner others named ungrouped =>
    cases others with
    | nil => simp [ofComponents, Ownership.flags, named]
    | cons group others =>
      simp [ofComponents, Ownership.flags, named, ungrouped group rfl]
  | group others named grouped => simp [ofComponents, Ownership.flags, named, grouped]

theorem goesOn_iff {parts : List String} {next : String} :
    GoesOn parts next ↔ (ofComponents parts).continueAs = some next := by
  simp [GoesOn, ofComponents, Option.filter_eq_some_iff]

theorem Flags.tidy {parts flags : List String} (asked : Flags parts flags)
    (free : ∀ part ∈ parts, ':' ∉ part.toList) (place : List String) :
    Tidy ⟨.copy, flags ++ place⟩ place := by
  refine ⟨rfl, ?_⟩
  cases asked with
  | absent others => exact .inl rfl
  | @owner owner others named ungrouped =>
    refine .inr ⟨owner, rfl, ?_⟩
    rw [Text.pieces_of_notMem (free owner List.mem_cons_self)]
    simpa using named
  | @group owner group others named grouped =>
    refine .inr ⟨owner ++ ":" ++ group, rfl, ?_⟩
    rw [Text.pieces_append (by decide), Text.pieces_of_notMem (free owner List.mem_cons_self),
      Text.pieces_of_notMem (free group (.tail owner List.mem_cons_self))]
    simpa using ⟨named, grouped⟩

theorem Copied.settled {owner : Option String} {place : List String} {group : List Instruction}
    (copied : Copied owner place group) : Settled place group := by
  cases copied with
  | unowned _ => exact .alone ⟨rfl, .inl rfl⟩
  | alone _ parted asked _ => exact .alone (asked.tidy parted.free place)
  | bracketed _ parted asked goesOn => exact .bracketed (asked.tidy parted.free place) goesOn.2

end Ownership

namespace Recipe

open Ownership

variable {r : Recipe} {instructions : List Instruction}

def place (r : Recipe) (rule : CopyRule) : List String :=
  [rule.source, r.targetDir rule ++ "/" ++ rule.destination]

theorem copied_of_copyGroup {rule : CopyRule} {group : List Instruction}
    (written : r.CopyGroup rule group) :
    Copied (rule.placement.user.or r.assemblyUser) (r.place rule) group := by
  have parted (user : String) : Parted user (components user) := parted_iff.mpr rfl
  have asked (user : String) : Flags (components user) (ofUser user).flags :=
    flags_ofComponents (parted user).filled
  cases written with
  | unowned owner => exact .unowned owner
  | @owned user owner alone =>
    apply Copied.alone owner (parted user) (asked user)
    intro next goesOn
    have named := goesOn_iff.mp goesOn
    rw [← ofUser, alone] at named
    cases named
  | @bracketed user next owner goesOn =>
    exact .bracketed owner (parted user) (asked user) (goesOn_iff.mpr goesOn)

theorem copied_iff (r : Recipe) (rule : CopyRule) (group : List Instruction) :
    Copied (rule.placement.user.or r.assemblyUser) (r.place rule) group ↔
      group = r.copyInstructions rule := by
  constructor
  · intro copied
    -- The components are determined by the user, and with them the flags and whom to go on as, so
    -- each way to copy leaves one branch of the program.
    unfold copyInstructions copyUser
    cases copied with
    | unowned unset =>
      rw [unset]
      rfl
    | @alone user parts flags owner parted asked stays =>
      obtain rfl := parted_iff.mp parted
      have nobody : (ofUser user).continueAs = none :=
        Option.eq_none_iff_forall_ne_some.mpr fun next goesOn => stays next (goesOn_iff.mpr goesOn)
      rw [owner, asked.eq]
      simp only [nobody]
      rfl
    | @bracketed user next parts flags owner parted asked goesOn =>
      obtain rfl := parted_iff.mp parted
      have named : (ofUser user).continueAs = some next := goesOn_iff.mp goesOn
      rw [owner, asked.eq]
      simp only [named]
      rfl
  · rintro rfl
    exact copied_of_copyGroup (copyGroup_copyInstructions r rule)

theorem section_user_outside {j : Keyword} {part : List Instruction} {i : Instruction}
    (notCopy : j ≠ .copy) (holds : r.Section j part) (member : i ∈ part)
    (user : i.keyword = .user) :
    ∃ name, r.user = some name ∧ i = ⟨.user, [name]⟩ := by
  obtain rfl : j = .user := (section_keyword holds notCopy i member).symm.trans user
  exact OneIfSet.exists_of_mem holds member

/-- Every rule gives the instructions that its user asks for, which is its own one or else that of
the assemblies. They are settled: no flag has an empty part, and a switch to root is undone right
behind the copy. In the Dockerfile they stand together, rule by rule, and the only other switch of
user is the one to the user of the recipe. -/
theorem copies_owned (r : Recipe) :
    (∀ rule group, Copied (rule.placement.user.or r.assemblyUser) (r.place rule) group ↔
      group = r.copyInstructions rule) ∧
    (∀ rule, Settled (r.place rule) (r.copyInstructions rule)) ∧
    (∀ other : Recipe, other.assemblyUser = r.assemblyUser → other.baseDir = r.baseDir →
      ∀ rule, other.copyInstructions rule = r.copyInstructions rule) ∧
    ∀ text, r.render = .ok text → ∃ instructions before after, r.instructions = .ok instructions ∧
      text = dockerfileText instructions ∧
      instructions = before ++ r.copies.flatMap r.copyInstructions ++ after ∧
      ∀ i ∈ before ++ after, i.keyword ≠ .copy ∧
        (i.keyword = .user → ∃ name, r.user = some name ∧ i = ⟨.user, [name]⟩) := by
  have copied (rule : CopyRule) := (r.copied_iff rule _).mpr rfl
  refine ⟨r.copied_iff, fun rule => (copied rule).settled,
    fun other user dir => copyInstructions_congr user dir, ?_⟩
  intro text rendered
  obtain ⟨instructions, written, rfl⟩ := render_eq_ok_iff.mp rendered
  -- The layout has one section for copies; a switch of user elsewhere is in the section for users.
  obtain ⟨before, copies, after, split, holds, others⟩ :=
    layout_around .copy (instructions_layout written)
  rw [section_copy_eq holds] at split
  refine ⟨instructions, before, after, written, rfl, split, ?_⟩
  intro i member
  obtain ⟨j, part, notCopy, holds, inside⟩ := others i member
  refine ⟨?_, section_user_outside notCopy holds inside⟩
  rw [section_keyword holds notCopy i inside]
  exact notCopy

def colons : Recipe :=
  { start with
    user := some "app"
    assemblyUser := some "a:b:c:"
    copies :=
      [.make "x" "" {}, .make "y" "" { user := some "a::d:e" },
        .make "z" "" { user := some "::" }] }

theorem copies_owned_colons :
    ∃ text instructions before after, colons.render = .ok text ∧
      text = dockerfileText instructions ∧
      instructions = before ++
        [⟨.user, ["root"]⟩, ⟨.copy, ["--chown=a:b", "x", "/maven/"]⟩, ⟨.user, ["c"]⟩,
          ⟨.user, ["root"]⟩, ⟨.copy, ["--chown=a", "y", "/maven/"]⟩, ⟨.user, ["d"]⟩,
          ⟨.copy, ["z", "/maven/"]⟩] ++ after ∧
      ∀ i ∈ before ++ after, i.keyword ≠ .copy ∧ (i.keyword = .user → i = ⟨.user, ["app"]⟩) := by
  obtain ⟨_, _, _, runs⟩ := copies_owned colons
  obtain ⟨instructions, before, after, _, same, split, others⟩ := runs _ rfl
  refine ⟨_, instructions, before, after, rfl, same, split, ?_⟩
  intro i member
  refine ⟨(others i member).1, fun user => ?_⟩
  obtain ⟨name, named, rfl⟩ := (others i member).2 user
  cases named
  rfl

end Recipe

end ImageRecipe
