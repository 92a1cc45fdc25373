import Mathlib.Data.List.Nodup
import ImageRecipe.Dockerfile.Rendering
import ImageRecipe.Proofs.Outcome

/-!
The layout of a Dockerfile. Every keyword opens a section, and the sections stand in one fixed
order. `Recipe.Section` says what a section holds, apart from the renderer; switches of user around
a copy belong to the section of the copies.
-/
namespace ImageRecipe

def Keyword.order : List Keyword :=
  [.image, .maintainer, .env, .label, .expose, .copy, .workdir, .shell, .run, .volume,
   .healthcheck, .cmd, .entrypoint, .user]

structure OneIfSet {α : Type} (value : Option α) (instruction : α → Instruction)
    (part : List Instruction) : Prop where
  absent : value = none → part = []
  present : ∀ a, value = some a → part = [instruction a]

structure OneIfAny {α : Type} (items : List α) (i : Instruction)
    (part : List Instruction) : Prop where
  absent : items = [] → part = []
  present : items ≠ [] → part = [i]

namespace Recipe

/-- The instructions of one copy rule: the copy alone, or between two switches of user if the user
it copies for names one to go on as. -/
inductive CopyGroup (r : Recipe) (rule : CopyRule) : List Instruction → Prop where
  | unowned : r.copyUser rule = none → CopyGroup r rule [r.copyInstruction rule none]
  | owned {user : String} : r.copyUser rule = some user →
      (Ownership.ofUser user).continueAs = none →
        CopyGroup r rule [r.copyInstruction rule (Ownership.ofUser user).chown]
  | bracketed {user next : String} : r.copyUser rule = some user →
      (Ownership.ofUser user).continueAs = some next →
        CopyGroup r rule
          [⟨.user, ["root"]⟩, r.copyInstruction rule (Ownership.ofUser user).chown,
            ⟨.user, [next]⟩]

/-- What the section of a keyword holds. -/
def Section (r : Recipe) : Keyword → List Instruction → Prop
  | .image, part => part = [⟨.image, [r.image]⟩]
  | .maintainer, part => OneIfSet r.maintainer (fun name => ⟨.maintainer, [name]⟩) part
  | .env, part => OneIfAny r.env.toList ⟨.env, KeyValue.tokens r.env.toList⟩ part
  | .label, part => OneIfAny r.labels.toList ⟨.label, KeyValue.tokens r.labels.toList⟩ part
  | .expose, part =>
    ∃ ports, List.Forall₂ (fun entry port => Port.normalize entry = .ok port) r.ports ports ∧
      OneIfAny r.ports ⟨.expose, ports⟩ part
  | .copy, part => ∃ groups, List.Forall₂ r.CopyGroup r.copies groups ∧ part = groups.flatten
  | .workdir, part => OneIfSet r.workdir (fun dir => ⟨.workdir, [dir]⟩) part
  | .shell, part => OneIfSet r.shell (fun a => ⟨.shell, [a.encodeTokens]⟩) part
  | .run, part =>
    (r.optimise = true ∧ r.runs ≠ [] → part = [⟨.run, [" && ".intercalate r.runs]⟩]) ∧
      (¬ (r.optimise = true ∧ r.runs ≠ []) → part = r.runs.map fun command => ⟨.run, [command]⟩)
  | .volume, part => part = r.volumeInstructions
  | .healthcheck, part => OneIfSet r.healthCheck HealthCheck.instruction part
  | .cmd, part => OneIfSet r.cmd (fun a => ⟨.cmd, [a.encode]⟩) part
  | .entrypoint, part => OneIfSet r.entrypoint (fun a => ⟨.entrypoint, [a.encode]⟩) part
  | .user, part => OneIfSet r.user (fun name => ⟨.user, [name]⟩) part

/-- The sections one after the other. -/
def Layout (r : Recipe) (instructions : List Instruction) : Prop :=
  ∃ part : Keyword → List Instruction,
    (∀ k, r.Section k (part k)) ∧ instructions = Keyword.order.flatMap part

/-- Every switch of user stands right before a copy, as the one to root, right behind a copy that
such a switch precedes, or at the end as the user of the recipe. -/
def UsersPlaced (r : Recipe) (instructions : List Instruction) : Prop :=
  ∀ before i after, instructions = before ++ i :: after → i.keyword = .user →
    (∃ copy next rest, i = ⟨.user, ["root"]⟩ ∧ copy.keyword = .copy ∧
      after = copy :: ⟨.user, [next]⟩ :: rest) ∨
    (∃ front copy, copy.keyword = .copy ∧ before = front ++ [⟨.user, ["root"]⟩, copy]) ∨
    (after = [] ∧ ∃ name, r.user = some name ∧ i = ⟨.user, [name]⟩)

end Recipe

theorem OneIfSet.exists_of_mem {α : Type} {value : Option α} {instruction : α → Instruction}
    {part : List Instruction} {i : Instruction} (one : OneIfSet value instruction part)
    (member : i ∈ part) : ∃ a, value = some a ∧ i = instruction a := by
  cases value with
  | none => rw [one.absent rfl] at member; cases member
  | some a =>
    rw [one.present a rfl, List.mem_singleton] at member
    exact ⟨a, rfl, member⟩

theorem OneIfAny.eq_of_mem {α : Type} {items : List α} {i j : Instruction}
    {part : List Instruction} (one : OneIfAny items i part) (member : j ∈ part) : j = i := by
  by_cases empty : items = []
  · rw [one.absent empty] at member; cases member
  · rw [one.present empty, List.mem_singleton] at member
    exact member

theorem oneIfSet_optional (keyword : Keyword) (value : Option String) :
    OneIfSet value (fun text => ⟨keyword, [text]⟩) (Recipe.optional keyword value) := by
  constructor
  · rintro rfl; rfl
  · rintro text rfl; rfl

theorem oneIfSet_map {α : Type} (keyword : Keyword) (value : Option α) (text : α → String) :
    OneIfSet value (fun a => ⟨keyword, [text a]⟩) (Recipe.optional keyword (value.map text)) := by
  constructor
  · rintro rfl; rfl
  · rintro a rfl; rfl

theorem oneIfAny_together {α : Type} (keyword : Keyword) {items : List α} {args : List String}
    (same : items.length = args.length) :
    OneIfAny items ⟨keyword, args⟩ (Recipe.together keyword args) := by
  cases items with
  | nil =>
    have noArgs : args = [] := List.length_eq_zero_iff.mp same.symm
    exact ⟨fun _ => by rw [noArgs]; rfl, fun filled => absurd rfl filled⟩
  | cons item items =>
    cases args with
    | nil => cases same
    | cons arg args =>
      constructor
      · intro impossible; cases impossible
      · intro _; rfl

namespace Recipe

variable {r : Recipe} {instructions part : List Instruction} {text : String}

theorem check_ports {ports : List String} (accepted : r.check = .ok ports) :
    List.Forall₂ (fun entry port => Port.normalize entry = .ok port) r.ports ports := by
  obtain ⟨_, _, normal⟩ := bind_eq_ok_iff.mp accepted
  exact mapM_eq_ok_iff.mp normal

theorem copyGroup_copyInstructions (r : Recipe) (rule : CopyRule) :
    r.CopyGroup rule (r.copyInstructions rule) := by
  cases owner : r.copyUser rule with
  | none =>
    simp only [copyInstructions, owner]
    exact .unowned owner
  | some user =>
    simp only [copyInstructions, owner]
    split
    · rename_i alone
      exact .owned owner alone
    · rename_i goesOn
      exact .bracketed owner goesOn

/-- What else a recipe holds, other rules among it, makes no difference to a rule. -/
theorem copyInstructions_congr {other : Recipe} (user : other.assemblyUser = r.assemblyUser)
    (dir : other.baseDir = r.baseDir) (rule : CopyRule) :
    other.copyInstructions rule = r.copyInstructions rule := by
  simp only [copyInstructions, copyUser, copyInstruction, targetDir, user, dir]

theorem section_runs (r : Recipe) :
    r.Section .run (r.layers.map fun command => ⟨.run, [command]⟩) := by
  have merged : (r.optimise && !r.runs.isEmpty) = true ↔ r.optimise = true ∧ r.runs ≠ [] := by
    simp
  constructor
  · intro several
    rw [layers, if_pos (merged.mpr several)]
    rfl
  · intro single
    rw [layers, if_neg (fun h => single (merged.mp h))]

def writtenSection (r : Recipe) (ports : List String) : Keyword → List Instruction
  | .image => [⟨.image, [r.image]⟩]
  | .maintainer => optional .maintainer r.maintainer
  | .env => together .env (KeyValue.tokens r.env.toList)
  | .label => together .label (KeyValue.tokens r.labels.toList)
  | .expose => together .expose ports
  | .copy => r.copies.flatMap r.copyInstructions
  | .workdir => optional .workdir r.workdir
  | .shell => optional .shell (r.shell.map Argument.encodeTokens)
  | .run => r.layers.map fun command => ⟨.run, [command]⟩
  | .volume => r.volumeInstructions
  | .healthcheck => (r.healthCheck.map HealthCheck.instruction).toList
  | .cmd => optional .cmd (r.cmd.map Argument.encode)
  | .entrypoint => optional .entrypoint (r.entrypoint.map Argument.encode)
  | .user => optional .user r.user

theorem instructionsWith_eq (r : Recipe) (ports : List String) :
    r.instructionsWith ports = Keyword.order.flatMap (r.writtenSection ports) := by
  simp [instructionsWith, Keyword.order, writtenSection, List.append_assoc]

theorem section_writtenSection {ports : List String}
    (accepted : List.Forall₂ (fun entry port => Port.normalize entry = .ok port) r.ports ports)
    (k : Keyword) : r.Section k (r.writtenSection ports k) := by
  cases k with
  | image => rfl
  | maintainer => exact oneIfSet_optional .maintainer r.maintainer
  | env => exact oneIfAny_together .env (by simp [KeyValue.tokens])
  | label => exact oneIfAny_together .label (by simp [KeyValue.tokens])
  | expose => exact ⟨ports, accepted, oneIfAny_together .expose accepted.length_eq⟩
  | copy =>
    refine ⟨r.copies.map r.copyInstructions, ?_, List.flatMap_def⟩
    rw [List.forall₂_map_right_iff, List.forall₂_same]
    exact fun rule _ => copyGroup_copyInstructions r rule
  | workdir => exact oneIfSet_optional .workdir r.workdir
  | shell => exact oneIfSet_map .shell r.shell Argument.encodeTokens
  | run => exact section_runs r
  | volume => rfl
  | healthcheck =>
    constructor
    · intro unset; simp [writtenSection, unset]
    · intro check set; simp [writtenSection, set]
  | cmd => exact oneIfSet_map .cmd r.cmd Argument.encode
  | entrypoint => exact oneIfSet_map .entrypoint r.entrypoint Argument.encode
  | user => exact oneIfSet_optional .user r.user

theorem instructions_layout (accepted : r.instructions = .ok instructions) :
    r.Layout instructions := by
  obtain ⟨ports, checked, rfl⟩ := map_eq_ok_iff.mp accepted
  exact ⟨r.writtenSection ports, section_writtenSection (check_ports checked),
    instructionsWith_eq r ports⟩

theorem render_eq_ok_iff :
    r.render = .ok text ↔
      ∃ instructions, r.instructions = .ok instructions ∧ dockerfileText instructions = text :=
  map_eq_ok_iff

theorem section_run_mem (holds : r.Section .run part) :
    ∀ i ∈ part, ∃ command, i = ⟨.run, [command]⟩ ∧
      (command = " && ".intercalate r.runs ∨ command ∈ r.runs) := by
  intro i member
  by_cases several : r.optimise = true ∧ r.runs ≠ []
  · rw [holds.1 several, List.mem_singleton] at member
    exact ⟨_, member, .inl rfl⟩
  · rw [holds.2 several] at member
    obtain ⟨command, there, rfl⟩ := List.mem_map.mp member
    exact ⟨command, rfl, .inr there⟩

theorem section_keyword {k : Keyword} (holds : r.Section k part) (notCopy : k ≠ .copy) :
    ∀ i ∈ part, i.keyword = k := by
  intro i member
  cases k with
  | copy => exact absurd rfl notCopy
  | image => rw [holds, List.mem_singleton] at member; rw [member]
  | maintainer | workdir | shell | cmd | entrypoint | user =>
    obtain ⟨_, _, rfl⟩ := OneIfSet.exists_of_mem holds member
    rfl
  | healthcheck =>
    obtain ⟨check, _, rfl⟩ := OneIfSet.exists_of_mem holds member
    cases check <;> rfl
  | env | label => rw [OneIfAny.eq_of_mem holds member]
  | expose =>
    obtain ⟨ports, _, one⟩ := holds
    rw [one.eq_of_mem member]
  | run =>
    obtain ⟨_, rfl, _⟩ := section_run_mem holds i member
    rfl
  | volume =>
    rw [holds] at member
    obtain ⟨path, _, rfl⟩ := List.mem_map.mp member
    rfl

theorem copyGroup_eq {rule : CopyRule} {group : List Instruction}
    (written : r.CopyGroup rule group) : group = r.copyInstructions rule := by
  unfold copyInstructions
  cases written with
  | unowned owner => rw [owner]
  | owned owner alone =>
    rw [owner]
    simp only [alone]
  | bracketed owner goesOn =>
    rw [owner]
    simp only [goesOn]

theorem section_copy_eq (holds : r.Section .copy part) :
    part = r.copies.flatMap r.copyInstructions := by
  obtain ⟨groups, written, rfl⟩ := holds
  generalize r.copies = rules at written
  induction written with
  | nil => rfl
  | cons head _ ih => rw [List.flatten_cons, List.flatMap_cons, ih, copyGroup_eq head]

theorem copyGroup_keyword {rule : CopyRule} {group : List Instruction}
    (written : r.CopyGroup rule group) : ∀ i ∈ group, i.keyword = .copy ∨ i.keyword = .user := by
  cases written <;> simp [copyInstruction]

theorem section_copy_keyword (holds : r.Section .copy part) :
    ∀ i ∈ part, i.keyword = .copy ∨ i.keyword = .user := by
  obtain ⟨groups, written, rfl⟩ := holds
  generalize r.copies = rules at written
  induction written with
  | nil => intro i member; cases member
  | cons head _ ih =>
    intro i member
    rw [List.flatten_cons, List.mem_append] at member
    exact member.elim (copyGroup_keyword head i) (ih i)

/-- No section but that of a keyword holds its instructions, switches of user apart. -/
theorem section_keyword_ne {j k : Keyword} (holds : r.Section j part) (other : j ≠ k)
    (notUser : k ≠ .user) : ∀ i ∈ part, i.keyword ≠ k := by
  intro i member
  by_cases copies : j = .copy
  · subst copies
    rcases section_copy_keyword holds i member with copy | user
    · rwa [copy]
    · rw [user]
      exact notUser.symm
  · rwa [section_keyword holds copies i member]

/-- Functions that differ at one member of a list give lists that differ in one stretch. -/
theorem flatMap_differ {α β : Type} {f g : α → List β} {xs : List α} {a : α}
    (distinct : xs.Nodup) (member : a ∈ xs) (same : ∀ b ∈ xs, b ≠ a → f b = g b) :
    ∃ front back, xs.flatMap f = front ++ f a ++ back ∧ xs.flatMap g = front ++ g a ++ back ∧
      ∀ y ∈ front ++ back, ∃ b ∈ xs, b ≠ a ∧ y ∈ f b := by
  obtain ⟨before, after, rfl⟩ := List.append_of_mem member
  have others : ∀ b ∈ before ++ after, b ≠ a := by
    rw [List.nodup_middle, List.nodup_cons] at distinct
    rintro b there rfl
    exact distinct.1 there
  have listed : ∀ b ∈ before ++ after, b ∈ before ++ a :: after := by
    intro b there
    simp only [List.mem_append, List.mem_cons] at there ⊢
    exact there.imp_right .inr
  have agree : ∀ b ∈ before ++ after, f b = g b :=
    fun b there => same b (listed b there) (others b there)
  refine ⟨before.flatMap f, after.flatMap f, by simp, ?_, ?_⟩
  · have front := List.flatMap_congr fun b there => agree b (List.mem_append_left after there)
    have back := List.flatMap_congr fun b there => agree b (List.mem_append_right before there)
    simp [front, back]
  · intro y inside
    rw [← List.flatMap_append] at inside
    obtain ⟨b, there, holds⟩ := List.mem_flatMap.mp inside
    exact ⟨b, listed b there, others b there, holds⟩

theorem flatMap_eq_of_single {α β : Type} {f : α → List β} {xs : List α} {a : α}
    (distinct : xs.Nodup) (member : a ∈ xs) (others : ∀ b, b ≠ a → f b = []) :
    xs.flatMap f = f a := by
  obtain ⟨front, back, split, _, around⟩ :=
    flatMap_differ (f := f) distinct member fun _ _ _ => rfl
  have empty : front ++ back = [] := by
    rw [List.eq_nil_iff_forall_not_mem]
    intro y there
    obtain ⟨b, _, other, inside⟩ := around y there
    rw [others b other] at inside
    cases inside
  obtain ⟨rfl, rfl⟩ := List.append_eq_nil_iff.mp empty
  simpa using split

theorem layout_filter {k : Keyword} (notUser : k ≠ .user) (layout : r.Layout instructions) :
    ∃ part, r.Section k part ∧
      instructions.filter (·.keyword = k) = part.filter (·.keyword = k) := by
  obtain ⟨part, holds, rfl⟩ := layout
  refine ⟨part k, holds k, ?_⟩
  rw [List.filter_flatMap]
  apply flatMap_eq_of_single (by decide) (by cases k <;> decide)
  intro j other
  rw [List.filter_eq_nil_iff]
  intro i member
  simpa using section_keyword_ne (holds j) other notUser i member

theorem layout_section {k : Keyword} (notUser : k ≠ .user) (notCopy : k ≠ .copy)
    (layout : r.Layout instructions) : r.Section k (instructions.filter (·.keyword = k)) := by
  obtain ⟨part, holds, same⟩ := layout_filter notUser layout
  have all : part.filter (·.keyword = k) = part := by
    rw [List.filter_eq_self]
    intro i member
    exact decide_eq_true (section_keyword holds notCopy i member)
  rw [same, all]
  exact holds

/-- A section is one stretch of the instructions; what stands before and behind it belongs to
others. -/
theorem layout_around (k : Keyword) (layout : r.Layout instructions) :
    ∃ before part after, instructions = before ++ part ++ after ∧ r.Section k part ∧
      ∀ i ∈ before ++ after, ∃ j other, j ≠ k ∧ r.Section j other ∧ i ∈ other := by
  obtain ⟨part, holds, rfl⟩ := layout
  have listed : k ∈ Keyword.order := by cases k <;> decide
  have distinct : Keyword.order.Nodup := by decide
  obtain ⟨before, after, split, _, around⟩ :=
    flatMap_differ (f := part) distinct listed fun _ _ _ => rfl
  refine ⟨before, part k, after, split, holds k, ?_⟩
  intro i member
  obtain ⟨j, _, other, inside⟩ := around i member
  exact ⟨j, part j, other, holds j, inside⟩

theorem layout_copies (layout : r.Layout instructions) :
    List.Forall₂ (fun rule i => ∃ chown, i = r.copyInstruction rule chown) r.copies
      (instructions.filter (·.keyword = .copy)) := by
  have notUser : Keyword.copy ≠ .user := by decide
  obtain ⟨part, ⟨groups, written, rfl⟩, same⟩ := layout_filter notUser layout
  rw [same]
  clear same
  generalize r.copies = rules at written
  induction written with
  | nil => exact .nil
  | cons head _ ih =>
    rw [List.flatten_cons, List.filter_append]
    cases head with
    | unowned _ => exact .cons ⟨_, rfl⟩ ih
    | owned _ _ => exact .cons ⟨_, rfl⟩ ih
    | bracketed _ _ => exact .cons ⟨_, rfl⟩ ih

end Recipe

/-- Instructions in which every switch of user belongs to a bracket around one copy. -/
inductive Bracketed : List Instruction → Prop where
  | nil : Bracketed []
  | other {i : Instruction} {rest : List Instruction} :
      i.keyword ≠ .user → Bracketed rest → Bracketed (i :: rest)
  | bracket {copy : Instruction} {next : String} {rest : List Instruction} :
      copy.keyword = .copy → Bracketed rest →
        Bracketed (⟨.user, ["root"]⟩ :: copy :: ⟨.user, [next]⟩ :: rest)

namespace Bracketed

theorem of_forall {part : List Instruction} (others : ∀ i ∈ part, i.keyword ≠ .user) :
    Bracketed part := by
  induction part with
  | nil => exact .nil
  | cons i rest ih =>
    exact .other (others i List.mem_cons_self) (ih fun j member => others j (.tail i member))

theorem append {xs ys : List Instruction} (hx : Bracketed xs) (hy : Bracketed ys) :
    Bracketed (xs ++ ys) := by
  induction hx with
  | nil => exact hy
  | other notUser _ ih => exact .other notUser ih
  | bracket copies _ ih => exact .bracket copies ih

theorem flatMap {α : Type} {f : α → List Instruction} {xs : List α}
    (each : ∀ a ∈ xs, Bracketed (f a)) : Bracketed (xs.flatMap f) := by
  induction xs with
  | nil => exact .nil
  | cons a xs ih =>
    rw [List.flatMap_cons]
    exact append (each a List.mem_cons_self) (ih fun b member => each b (.tail a member))

theorem placed {instructions before after : List Instruction} {i : Instruction}
    (bracketed : Bracketed instructions) (split : instructions = before ++ i :: after)
    (user : i.keyword = .user) :
    (∃ copy next rest, i = ⟨.user, ["root"]⟩ ∧ copy.keyword = .copy ∧
      after = copy :: ⟨.user, [next]⟩ :: rest) ∨
    (∃ front copy, copy.keyword = .copy ∧ before = front ++ [⟨.user, ["root"]⟩, copy]) := by
  induction bracketed generalizing before with
  | nil => cases before <;> cases split
  | other notUser _ ih =>
    cases before with
    | nil =>
      obtain ⟨rfl, rfl⟩ := List.cons.inj split
      exact absurd user notUser
    | cons j before =>
      obtain ⟨rfl, rest⟩ := List.cons.inj split
      rcases ih rest with opening | ⟨front, copy, copies, rfl⟩
      · exact .inl opening
      · exact .inr ⟨_ :: front, copy, copies, rfl⟩
  | @bracket copy next rest copies _ ih =>
    match before, split with
    | [], split =>
      obtain ⟨rfl, rfl⟩ := List.cons.inj split
      exact .inl ⟨copy, next, rest, rfl, copies, rfl⟩
    | [_], split =>
      simp only [List.cons_append, List.nil_append, List.cons.injEq] at split
      obtain ⟨_, rfl, _⟩ := split
      rw [copies] at user
      cases user
    | [_, _], split =>
      simp only [List.cons_append, List.nil_append, List.cons.injEq] at split
      obtain ⟨rfl, rfl, _⟩ := split
      exact .inr ⟨[], copy, copies, rfl⟩
    | _ :: _ :: _ :: before, split =>
      simp only [List.cons_append, List.cons.injEq] at split
      obtain ⟨rfl, rfl, rfl, inner⟩ := split
      rcases ih inner with opening | ⟨front, other, others, rfl⟩
      · exact .inl opening
      · exact .inr ⟨_ :: _ :: _ :: front, other, others, rfl⟩

end Bracketed

namespace Recipe

variable {r : Recipe} {instructions part : List Instruction} {text : String}

theorem section_bracketed {k : Keyword} (notUser : k ≠ .user) (holds : r.Section k part) :
    Bracketed part := by
  by_cases copies : k = .copy
  · subst copies
    obtain ⟨groups, written, rfl⟩ := holds
    generalize r.copies = rules at written
    induction written with
    | nil => exact .nil
    | cons head _ ih =>
      rw [List.flatten_cons]
      apply Bracketed.append _ ih
      cases head with
      | unowned _ => exact .other (by simp [copyInstruction]) .nil
      | owned _ _ => exact .other (by simp [copyInstruction]) .nil
      | bracketed _ _ => exact .bracket rfl .nil
  · apply Bracketed.of_forall
    intro i member
    rw [section_keyword holds copies i member]
    exact notUser

/-- A Dockerfile is bracketed up to its last section. -/
theorem layout_split (layout : r.Layout instructions) :
    ∃ front last, Bracketed front ∧ r.Section .user last ∧ instructions = front ++ last := by
  obtain ⟨part, holds, rfl⟩ := layout
  refine ⟨Keyword.order.dropLast.flatMap part, part .user, ?_, holds .user, ?_⟩
  · apply Bracketed.flatMap
    intro k member
    have notUser : k ≠ .user := by
      rintro rfl
      exact absurd member (by decide)
    exact section_bracketed notUser (holds k)
  · simp [Keyword.order]

theorem layout_users (layout : r.Layout instructions) : r.UsersPlaced instructions := by
  obtain ⟨front, last, bracketed, holds, rfl⟩ := layout_split layout
  intro before i after split user
  cases named : r.user with
  | none =>
    rw [holds.absent named, List.append_nil] at split
    rcases bracketed.placed split user with opening | closing
    · exact .inl opening
    · exact .inr (.inl closing)
  | some name =>
    rw [holds.present name named] at split
    rcases List.eq_nil_or_concat after with rfl | ⟨inner, j, rfl⟩
    · have ends := List.append_inj' split rfl
      exact .inr (.inr ⟨rfl, name, rfl, (List.cons.inj ends.2).1.symm⟩)
    · -- the last instruction is behind `i`, so `i` stands in the bracketed front
      rw [List.concat_eq_append, ← List.cons_append, ← List.append_assoc] at split
      have ends := List.append_inj' split rfl
      rcases bracketed.placed ends.1 user with ⟨copy, next, rest, root, copies, rfl⟩ | closing
      · refine .inl ⟨copy, next, rest ++ [j], root, copies, ?_⟩
        rw [List.concat_eq_append]
        rfl
      · exact .inr (.inl closing)

theorem layout_head (layout : r.Layout instructions) :
    instructions.head? = some ⟨.image, [r.image]⟩ := by
  obtain ⟨part, holds, rfl⟩ := layout
  have first : part .image = [⟨.image, [r.image]⟩] := holds .image
  rw [Keyword.order, List.flatMap_cons, first]
  rfl

theorem layout_last {name : String} (layout : r.Layout instructions) (named : r.user = some name) :
    instructions.getLast? = some ⟨.user, [name]⟩ := by
  obtain ⟨front, last, _, holds, rfl⟩ := layout_split layout
  rw [holds.present name named, List.getLast?_concat]

theorem layout_countP_copy (layout : r.Layout instructions) :
    instructions.countP (·.keyword = .copy) = r.copies.length := by
  rw [List.countP_eq_length_filter]
  exact (layout_copies layout).length_eq.symm

/-- A recipe that renders gives the lines of a list of instructions in the fixed layout. The list
begins with the base image and ends with the user, if there is one; it has a copy for every rule,
and switches of user stand nowhere but around copies and at the end. -/
theorem render_layout (r : Recipe) (text : String) (rendered : r.render = .ok text) :
    ∃ instructions, r.instructions = .ok instructions ∧
      text = String.join (instructions.map fun i => i.inline ++ "\n") ∧
      r.Layout instructions ∧
      instructions.head? = some ⟨.image, [r.image]⟩ ∧
      (∀ name, r.user = some name → instructions.getLast? = some ⟨.user, [name]⟩) ∧
      instructions.countP (·.keyword = .copy) = r.copies.length ∧
      r.UsersPlaced instructions := by
  obtain ⟨instructions, written, rfl⟩ := render_eq_ok_iff.mp rendered
  have layout := instructions_layout written
  exact ⟨instructions, written, rfl, layout, layout_head layout,
    fun _ named => layout_last layout named, layout_countP_copy layout, layout_users layout⟩

def switching : Recipe :=
  { start with
    user := some "app"
    ports := ["80", "53/UDP"]
    copies := [.make "web" "" {}, .make "lib" "/ext" { user := some "jboss:users:jboss" }]
    runs := ["a", "b"]
    optimise := true }

theorem render_layout_switching :
    ∃ text, switching.render = .ok text ∧
      ∃ instructions, switching.instructions = .ok instructions ∧
        text = String.join (instructions.map fun i => i.inline ++ "\n") ∧
        switching.Layout instructions ∧
        instructions.head? = some ⟨.image, [switching.image]⟩ ∧
        instructions.getLast? = some ⟨.user, ["app"]⟩ ∧
        instructions.countP (·.keyword = .copy) = 2 ∧
        switching.UsersPlaced instructions := by
  obtain ⟨instructions, written, same, layout, head, last, copies, users⟩ :=
    render_layout switching _ rfl
  exact ⟨_, rfl, instructions, written, same, layout, head, last "app" rfl, copies, users⟩

end Recipe

end ImageRecipe
