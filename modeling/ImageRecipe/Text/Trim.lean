namespace ImageRecipe.Text

def dropTrailing (p : Char → Bool) (cs : List Char) : List Char :=
  (cs.reverse.dropWhile p).reverse

def dropStart (p : Char → Bool) (s : String) : String :=
  String.ofList (s.toList.dropWhile p)

def dropEnd (p : Char → Bool) (s : String) : String :=
  String.ofList (dropTrailing p s.toList)

/-- The pieces of a text between the occurrences of `separator`: one more than there are
occurrences. -/
def pieces (separator : Char) (s : String) : List String :=
  (s.toList.splitOn separator).map String.ofList

def rest? : List Char → List Char → Option (List Char)
  | [], cs => some cs
  | _ :: _, [] => none
  | s :: start, c :: cs => if s = c then rest? start cs else none

theorem rest?_eq_some_iff {start cs tail : List Char} :
    rest? start cs = some tail ↔ cs = start ++ tail := by
  induction start generalizing cs with
  | nil => simp [rest?, eq_comm]
  | cons s start ih =>
    cases cs with
    | nil => simp [rest?]
    | cons c cs =>
      by_cases same : s = c
      · simp [rest?, same, ih]
      · simp [rest?, same, Ne.symm same]

theorem ofList_comp_toList : String.ofList ∘ String.toList = id :=
  funext fun _ => String.ofList_toList

theorem toList_comp_ofList : String.toList ∘ String.ofList = id :=
  funext fun _ => String.toList_ofList

@[simp] theorem toList_dropStart (p : Char → Bool) (s : String) :
    (dropStart p s).toList = s.toList.dropWhile p := by
  simp [dropStart]

@[simp] theorem toList_dropEnd (p : Char → Bool) (s : String) :
    (dropEnd p s).toList = dropTrailing p s.toList := by
  simp [dropEnd]

end ImageRecipe.Text
