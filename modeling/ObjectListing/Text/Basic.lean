/-!
Text as the list of its characters.

Keys, bucket names, URIs and patterns are all `Text`: beginnings, endings and parts of them are then
facts about lists, and their order, character by character, is the order of the bytes that encode
them. Strings appear at the edges only, in messages and in output.
-/

namespace ObjectListing

/-- A text is its characters, in order. -/
abbrev Text := List Char

namespace Text

/-- The string with these characters. -/
def str (t : Text) : String := String.ofList t

/-- The text of a string. -/
def of (s : String) : Text := s.toList

theorem str_of (s : String) : str (of s) = s := String.ofList_toList

theorem of_str (t : Text) : of (str t) = t := String.toList_ofList

/-- Whether `t` comes at or before `u` in the order of keys. -/
def atMost (t u : Text) : Bool := !decide (u < t)

/-- What follows `start` in a text that begins with it. -/
def after? : Text → Text → Option Text
  | [], t => some t
  | _ :: _, [] => none
  | a :: as, c :: cs => if a = c then after? as cs else none

theorem after?_append (start rest : Text) : after? start (start ++ rest) = some rest := by
  induction start with
  | nil => rfl
  | cons a as ih => simp [after?, ih]

theorem eq_append_of_after? {start t rest : Text} (h : after? start t = some rest) :
    t = start ++ rest := by
  induction start generalizing t with
  | nil => simpa [after?] using h
  | cons a as ih =>
    cases t with
    | nil => simp [after?] at h
    | cons c cs =>
      by_cases hc : a = c
      · subst hc; simpa using ih (by simpa [after?] using h)
      · simp [after?, hc] at h

/-- A text begins with `start` exactly when it is `start` and a rest. -/
theorem after?_eq_some_iff {start t rest : Text} :
    after? start t = some rest ↔ t = start ++ rest :=
  ⟨eq_append_of_after?, fun h => h ▸ after?_append start rest⟩

/-- Whether a text begins with `start`. -/
def startsWith (t start : Text) : Bool := (after? start t).isSome

theorem startsWith_iff {t start : Text} : t.startsWith start = true ↔ start <+: t := by
  rw [startsWith, Option.isSome_iff_exists]
  exact exists_congr fun rest => after?_eq_some_iff.trans eq_comm

/-- The text before the first `c` and, when there is one, the text after it. -/
def cut (c : Char) : Text → Text × Option Text
  | [] => ([], none)
  | a :: as => if a = c then ([], some as) else ((a :: (cut c as).1), (cut c as).2)

/-- The text before the first occurrence of `mark`, or all of it. -/
def upTo (mark : Text) : Text → Text
  | [] => []
  | a :: as => if startsWith (a :: as) mark then [] else a :: upTo mark as

/-- The number of bytes that encode a text. -/
def byteLength (t : Text) : Nat := t.foldr (fun c n => c.utf8Size + n) 0

end Text

end ObjectListing
