import ImageRecipe.Port
import ImageRecipe.Proofs.Outcome
import ImageRecipe.Proofs.Text.Lowercase

/-!
The language of ports. Lower-casing a port is a matter of ASCII alone, although it is defined on all
characters: nothing else becomes a digit or a letter of a protocol.
-/
namespace ImageRecipe.Port

/-- Digits, and behind them nothing or one protocol, in any case of its letters. -/
def WellFormed (entry : String) : Prop :=
  ∃ number suffix : List Char, entry.toList = number ++ suffix ∧ number ≠ [] ∧
    (∀ c ∈ number, c.isDigit = true) ∧
    String.ofList (suffix.map Char.toLower) ∈ ["", "/tcp", "/udp"]

def FirstMalformed (entries : List String) (entry : String) : Prop :=
  ∃ before after, entries = before ++ entry :: after ∧ (∀ other ∈ before, WellFormed other) ∧
    ¬ WellFormed entry

theorem withoutProtocol_digits {number : List Char} (digits : ∀ c ∈ number, c.isDigit = true) :
    withoutProtocol number = number := by
  -- both protocols end in the same letter
  have kept : ∀ cs, Text.rest? ('p' :: cs) number.reverse = none := by
    intro cs
    cases last : number.reverse with
    | nil => rfl
    | cons c rest =>
      have digit := digits c (List.mem_reverse.mp (last ▸ List.mem_cons_self))
      have other : 'p' ≠ c := by
        rintro rfl
        exact absurd digit (by decide)
      rw [Text.rest?, if_neg other]
  have nothing :
      (protocols.findSome? fun p => Text.rest? p.toList.reverse number.reverse) = none := by
    have tcp := kept ['c', 't', '/']
    have udp := kept ['d', 'u', '/']
    simp [protocols, tcp, udp]
  rw [withoutProtocol, nothing]

theorem withoutProtocol_tcp (number : List Char) :
    withoutProtocol (number ++ "/tcp".toList) = number := by
  simp [withoutProtocol, protocols, Text.rest?]

theorem withoutProtocol_udp (number : List Char) :
    withoutProtocol (number ++ "/udp".toList) = number := by
  simp [withoutProtocol, protocols, Text.rest?]

theorem withoutProtocol_suffix {number : List Char} {suffix : String}
    (digits : ∀ c ∈ number, c.isDigit = true) (known : suffix ∈ ["", "/tcp", "/udp"]) :
    withoutProtocol (number ++ suffix.toList) = number := by
  simp only [List.mem_cons, List.not_mem_nil, or_false] at known
  rcases known with rfl | rfl | rfl
  · rw [String.toList_empty, List.append_nil]
    exact withoutProtocol_digits digits
  · exact withoutProtocol_tcp number
  · exact withoutProtocol_udp number

theorem ascii_of_digit {c : Char} (digit : c.isDigit = true) : c.toNat < 128 := by
  simp only [Char.isDigit, Bool.and_eq_true, decide_eq_true_eq] at digit
  have below : c.toNat ≤ '9'.toNat := digit.2
  exact Nat.lt_of_le_of_lt below (by decide)

theorem ascii_of_toLower {c : Char} (small : c.toLower.toNat < 128) : c.toNat < 128 := by
  by_cases capital : 0x41 ≤ c.toNat ∧ c.toNat ≤ 0x5A
  · omega
  · rwa [Text.toLower_of_notCapital capital] at small

theorem toLower_of_digit {c : Char} (digit : c.isDigit = true) : c.toLower = c := by
  apply Text.toLower_of_notCapital
  simp only [Char.isDigit, Bool.and_eq_true, decide_eq_true_eq] at digit
  have below : c.toNat ≤ '9'.toNat := digit.2
  rintro ⟨above, _⟩
  exact absurd (Nat.le_trans above below) (by decide)

theorem digit_of_toLower {c : Char} (ascii : c.toNat < 128) (digit : c.toLower.isDigit = true) :
    c.isDigit = true := by
  have known : ∀ n < 128,
      (Char.ofNat n).toLower.isDigit = true → (Char.ofNat n).isDigit = true := by
    decide +kernel
  have small := known c.toNat ascii
  rw [Char.ofNat_toNat] at small
  exact small digit

theorem suffix_small : ∀ suffix ∈ ["", "/tcp", "/udp"], ∀ d ∈ suffix.toList,
    d.toNat < 128 ∧ d ≠ 'i' ∧ d ≠ 'k' ∧ d ≠ '\x00' := by
  intro suffix known
  simp only [List.mem_cons, List.not_mem_nil, or_false] at known
  rcases known with rfl | rfl | rfl <;> simp

theorem digit_small {c : Char} (digit : c.isDigit = true) :
    c.toNat < 128 ∧ c ≠ 'i' ∧ c ≠ 'k' ∧ c ≠ '\x00' := by
  refine ⟨ascii_of_digit digit, ?_, ?_, ?_⟩
  all_goals
    rintro rfl
    cases digit

theorem ascii_of_port {cs number : List Char} {suffix : String}
    (lowered : cs.flatMap Text.lowerChar = number ++ suffix.toList)
    (digits : ∀ c ∈ number, c.isDigit = true) (known : suffix ∈ ["", "/tcp", "/udp"]) :
    ∀ c ∈ cs, c.toNat < 128 := by
  apply Text.ascii_of_lower
  intro d member
  rw [lowered] at member
  rcases List.mem_append.mp member with inNumber | inSuffix
  · exact digit_small (digits d inNumber)
  · exact suffix_small suffix known d inSuffix

def small (entry : String) : String := String.ofList (entry.toList.map Char.toLower)

theorem lower_of_ascii {entry : String} (ascii : ∀ c ∈ entry.toList, c.toNat < 128) :
    Text.lower entry = small entry := by
  rw [small, Text.lower, Text.flatMap_lowerChar ascii]

theorem wellFormed_of_normalize {entry port : String} (accepted : normalize entry = .ok port) :
    WellFormed entry ∧ port = small entry := by
  obtain ⟨rfl, nonempty, digits⟩ := normalize_eq_ok_iff.mp accepted
  obtain ⟨suffix, cut, known⟩ := withoutProtocol_append (Text.lower entry).toList
  generalize withoutProtocol (Text.lower entry).toList = number at cut nonempty digits
  have protocol : String.ofList suffix ∈ ["", "/tcp", "/udp"] := by
    rcases known with rfl | ⟨p, member, rfl⟩
    · exact List.mem_cons_self
    · rw [String.ofList_toList]
      exact .tail _ member
  rw [Text.lower, String.toList_ofList] at cut
  have ascii : ∀ c ∈ entry.toList, c.toNat < 128 := by
    rw [← @String.toList_ofList suffix] at cut
    exact ascii_of_port cut digits protocol
  rw [Text.flatMap_lowerChar ascii] at cut
  obtain ⟨front, back, split, rfl, rfl⟩ := List.map_eq_append_iff.mp cut
  refine ⟨⟨front, back, split, ?_, ?_, protocol⟩, ?_⟩
  · rintro rfl
    exact nonempty rfl
  · intro c there
    have here : c ∈ entry.toList := split ▸ List.mem_append_left back there
    exact digit_of_toLower (ascii c here) (digits _ (List.mem_map_of_mem there))
  · exact lower_of_ascii ascii

theorem toList_small {entry : String} {number suffix : List Char}
    (split : entry.toList = number ++ suffix) (digits : ∀ c ∈ number, c.isDigit = true) :
    (small entry).toList = number ++ (String.ofList (suffix.map Char.toLower)).toList := by
  have same : number.map Char.toLower = number := by
    rw [List.map_congr_left fun c there => toLower_of_digit (digits c there), List.map_id']
  rw [small, split, List.map_append, same, String.toList_ofList, String.toList_ofList]

theorem WellFormed.ascii {entry : String} (formed : WellFormed entry) :
    ∀ c ∈ entry.toList, c.toNat < 128 := by
  obtain ⟨number, suffix, split, _, digits, known⟩ := formed
  intro c there
  rw [split] at there
  rcases List.mem_append.mp there with inNumber | inSuffix
  · exact ascii_of_digit (digits c inNumber)
  · apply ascii_of_toLower
    have member : c.toLower ∈ (String.ofList (suffix.map Char.toLower)).toList := by
      rw [String.toList_ofList]
      exact List.mem_map_of_mem inSuffix
    exact (suffix_small _ known _ member).1

theorem normalize_of_wellFormed {entry : String} (formed : WellFormed entry) :
    normalize entry = .ok (small entry) := by
  have lowered := lower_of_ascii formed.ascii
  obtain ⟨number, suffix, split, nonempty, digits, known⟩ := formed
  rw [normalize_eq_ok_iff, toList_small split digits, withoutProtocol_suffix digits known]
  exact ⟨lowered.symm, nonempty, digits⟩

theorem fault_of_normalize {entry : String} {fault : Fault}
    (refused : normalize entry = .error fault) : fault = .invalidPort entry := by
  simp only [normalize] at refused
  split at refused
  · cases refused
  · exact (Except.error.inj refused).symm

theorem wellFormed_iff {entry : String} :
    WellFormed entry ↔ ∃ port, normalize entry = .ok port := by
  constructor
  · exact fun formed => ⟨small entry, normalize_of_wellFormed formed⟩
  · rintro ⟨port, accepted⟩
    exact (wellFormed_of_normalize accepted).1

def FirstRefused (entries : List String) (entry : String) : Prop :=
  ∃ before after, entries = before ++ entry :: after ∧
    (∀ other ∈ before, ∃ port, normalize other = .ok port) ∧
    ∃ fault, normalize entry = .error fault

theorem FirstRefused.firstMalformed {entries : List String} {entry : String}
    (first : FirstRefused entries entry) : FirstMalformed entries entry := by
  obtain ⟨before, after, split, passed, fault, refused⟩ := first
  refine ⟨before, after, split, fun other there => wellFormed_iff.mpr (passed other there), ?_⟩
  rw [wellFormed_iff]
  rintro ⟨port, accepted⟩
  rw [accepted] at refused
  cases refused

theorem exists_mapM_normalize_iff {entries : List String} :
    (∃ ports, entries.mapM normalize = .ok ports) ↔
      ∀ entry ∈ entries, ∃ port, normalize entry = .ok port := by
  constructor
  · rintro ⟨ports, passed⟩ entry there
    obtain ⟨port, _, accepted⟩ := forall₂_exists (mapM_eq_ok_iff.mp passed).flip entry there
    exact ⟨port, accepted⟩
  · intro passed
    cases outcome : entries.mapM normalize with
    | ok ports => exact ⟨ports, rfl⟩
    | error fault =>
      obtain ⟨before, entry, after, rfl, _, refused⟩ := mapM_eq_error_iff.mp outcome
      obtain ⟨port, accepted⟩ := passed entry (List.mem_append_right before List.mem_cons_self)
      rw [accepted] at refused
      cases refused

theorem mapM_normalize_eq_error_iff {entries : List String} {fault : Fault} :
    entries.mapM normalize = .error fault ↔
      ∃ entry, fault = .invalidPort entry ∧ FirstRefused entries entry := by
  rw [mapM_eq_error_iff]
  constructor
  · rintro ⟨before, entry, after, split, passed, refused⟩
    exact ⟨entry, fault_of_normalize refused, before, after, split, passed, fault, refused⟩
  · rintro ⟨entry, rfl, before, after, split, passed, other, refused⟩
    exact ⟨before, entry, after, split, passed, fault_of_normalize refused ▸ refused⟩

theorem refused_iff {entry : String} :
    normalize entry = .error (.invalidPort entry) ↔ ¬ WellFormed entry := by
  rw [wellFormed_iff]
  cases outcome : normalize entry with
  | ok port => simp
  | error fault => simp [fault_of_normalize outcome]

/-- What the check asks of an entry in small letters. -/
def Numbered (lowered : List Char) : Prop :=
  withoutProtocol lowered ≠ [] ∧ ∀ c ∈ withoutProtocol lowered, c.isDigit = true

theorem Numbered.ascii {lowered : List Char} (numbered : Numbered lowered) :
    ∀ d ∈ lowered, d.toNat < 128 := by
  obtain ⟨suffix, cut, known⟩ := withoutProtocol_append lowered
  intro d member
  rw [cut] at member
  rcases List.mem_append.mp member with inNumber | inSuffix
  · exact ascii_of_digit (numbered.2 d inNumber)
  · rcases known with rfl | ⟨p, there, rfl⟩
    · cases inSuffix
    · exact (suffix_small p (.tail _ there) d inSuffix).1

/-- The check comes out the same whichever small sigma stands for a capital one. -/
theorem numbered_iff {entry : String} {lowered : List Char}
    (letters : Text.Lowered entry.toList lowered) : Numbered lowered ↔ WellFormed entry := by
  have shown := Text.lowered_lower entry
  constructor
  · intro numbered
    rw [letters.unique_of_small shown numbered.ascii] at numbered
    exact (wellFormed_of_normalize (normalize_eq_ok_iff.mpr ⟨rfl, numbered⟩)).1
  · intro formed
    obtain ⟨same, numbered⟩ := normalize_eq_ok_iff.mp (normalize_of_wellFormed formed)
    rw [same] at numbered
    rwa [letters.unique_of_ascii shown formed.ascii]

theorem wellFormed_small {entry : String} (formed : WellFormed entry) :
    WellFormed (small entry) ∧ small (small entry) = small entry := by
  obtain ⟨number, suffix, split, nonempty, digits, known⟩ := formed
  have cut := toList_small split digits
  generalize String.ofList (suffix.map Char.toLower) = protocol at cut known
  have fixed : ∀ s ∈ ["", "/tcp", "/udp"], String.ofList (s.toList.map Char.toLower) = s := by
    decide
  have same := fixed protocol known
  constructor
  · refine ⟨number, protocol.toList, cut, nonempty, digits, ?_⟩
    rwa [same]
  · rw [← String.toList_inj, toList_small cut digits, same, cut]

theorem count_slash_le {entry : String} (formed : WellFormed entry) :
    (small entry).toList.count '/' ≤ 1 := by
  obtain ⟨number, suffix, split, _, digits, known⟩ := formed
  have inNumber : number.count '/' = 0 := by
    rw [List.count_eq_zero]
    exact fun slash => absurd (digits '/' slash) (by decide)
  have inSuffix : ∀ s ∈ ["", "/tcp", "/udp"], s.toList.count '/' ≤ 1 := by decide
  have bound := inSuffix _ known
  rw [toList_small split digits, List.count_append]
  omega

theorem not_wellFormed_of_protocols {front first second : String} (one : small first ∈ protocols)
    (two : small second ∈ protocols) : ¬ WellFormed (front ++ first ++ second) := by
  intro formed
  have slash : ∀ p ∈ protocols, p.toList.count '/' = 1 := by decide
  have inFirst := slash _ one
  have inSecond := slash _ two
  have bound := count_slash_le formed
  have parts : (small (front ++ first ++ second)).toList =
      (small front).toList ++ (small first).toList ++ (small second).toList := by
    simp [small]
  rw [parts, List.count_append, List.count_append] at bound
  omega

/-- An entry is a port exactly if it is well-formed; it comes out in small letters, and then again
as it is. What is refused is blamed as it was given. A character outside of ASCII is never lowered
into a port, and one protocol is the most that is taken off. -/
theorem normalize_language (entry : String) :
    ((∃ port, normalize entry = .ok port) ↔ WellFormed entry) ∧
    (∀ port, normalize entry = .ok port → port = small entry ∧ normalize port = .ok port) ∧
    (∀ fault, normalize entry = .error fault → fault = .invalidPort entry) ∧
    ((∃ c ∈ entry.toList, 128 ≤ c.toNat) → normalize entry = .error (.invalidPort entry)) ∧
    (∀ front first second, entry = front ++ first ++ second → small first ∈ protocols →
      small second ∈ protocols → normalize entry = .error (.invalidPort entry)) ∧
    ∀ lowered, Text.Lowered entry.toList lowered → (Numbered lowered ↔ WellFormed entry) := by
  refine ⟨wellFormed_iff.symm, ?_, fun _ => fault_of_normalize, ?_, ?_, fun _ => numbered_iff⟩
  · intro port accepted
    obtain ⟨formed, rfl⟩ := wellFormed_of_normalize accepted
    obtain ⟨again, same⟩ := wellFormed_small formed
    exact ⟨rfl, (normalize_of_wellFormed again).trans (congrArg Except.ok same)⟩
  · rintro ⟨c, member, high⟩
    rw [refused_iff]
    intro formed
    have low := formed.ascii c member
    omega
  · rintro front first second rfl one two
    exact refused_iff.mpr (not_wellFormed_of_protocols one two)

theorem normalize_language_mixed :
    normalize "443/Tcp" = .ok "443/tcp" ∧ normalize "443/tcp" = .ok "443/tcp" ∧
      normalize "80/TCP/udp" = .error (.invalidPort "80/TCP/udp") ∧
      normalize "80/u\u212A" = .error (.invalidPort "80/u\u212A") := by
  have accepted : normalize "443/Tcp" = .ok "443/tcp" := by decide
  obtain ⟨_, small, _⟩ := normalize_language "443/Tcp"
  obtain ⟨_, _, _, _, twice, _⟩ := normalize_language "80/TCP/udp"
  obtain ⟨_, _, _, foreign, _⟩ := normalize_language "80/u\u212A"
  exact ⟨accepted, (small _ accepted).2,
    twice "80" "/TCP" "/udp" (by decide) (by decide) (by decide),
    foreign ⟨'\u212A', by decide, by decide⟩⟩

end ImageRecipe.Port
