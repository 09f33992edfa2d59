import SkillScan.Proofs.Text.Separation

/-!
# Line ends

Line ends are unified from the end of a text on, and what follows a text stays behind it unchanged. Only
where a carriage return stands before a newline do the two make one line end, so any other newline cuts a
text into two whose line ends are unified on their own. A carriage return does the same, with the newline
that may follow it.
-/

namespace SkillScan.Text

namespace Unified

/-- A unified text with another text behind it. -/
def followedBy (rest : List Char) (unified : Unified) : Unified :=
  ⟨unified.afterOther ++ rest, unified.afterReturn ++ rest⟩

theorem put_followedBy (char : Char) (rest : List Char) (unified : Unified) :
    put char (unified.followedBy rest) = (put char unified).followedBy rest := by
  simp only [put, followedBy]
  split
  · rfl
  · split <;> rfl

theorem foldr_put_followedBy (text rest : List Char) (unified : Unified) :
    text.foldr put (unified.followedBy rest) = (text.foldr put unified).followedBy rest := by
  induction text with
  | nil => rfl
  | cons char text ih => rw [List.foldr_cons, ih, put_followedBy, List.foldr_cons]

/-- After any character but a carriage return, a newline is a line end of its own. -/
theorem put_before_newline {char : Char} (noReturn : char ≠ '\r') (rest : List Char) :
    put char ⟨'\n' :: rest, rest⟩ = (put char ⟨[], []⟩).followedBy ('\n' :: rest) := by
  simp only [put, noReturn, if_false]
  split <;> rfl

end Unified

theorem unifyNewlines_newline_cons (text : List Char) :
    unifyNewlines ('\n' :: text) = '\n' :: unifyNewlines text := rfl

theorem unifyNewlines_append_newline {first : List Char} (noReturn : first.getLast? ≠ some '\r')
    (second : List Char) :
    unifyNewlines (first ++ '\n' :: second) =
      unifyNewlines first ++ '\n' :: unifyNewlines second := by
  rcases List.eq_nil_or_concat first with rfl | ⟨front, last, rfl⟩
  · simp only [List.nil_append]
    exact unifyNewlines_newline_cons second
  · have lastNoReturn : last ≠ '\r' := by simpa using noReturn
    have newline : ('\n' :: second).foldr Unified.put ⟨[], []⟩ =
        ⟨'\n' :: unifyNewlines second, unifyNewlines second⟩ := rfl
    simp only [unifyNewlines, List.concat_eq_append, List.foldr_append, List.foldr_cons,
      List.foldr_nil] at newline ⊢
    rw [newline, Unified.put_before_newline lastNoReturn, Unified.foldr_put_followedBy]
    rfl

/-- Where no newline begins a text, it makes no difference whether a carriage return stands before. -/
theorem Unified.afterReturn_eq {text : List Char} (noNewline : text.head? ≠ some '\n') :
    (text.foldr put ⟨[], []⟩).afterReturn = unifyNewlines text := by
  cases text with
  | nil => rfl
  | cons char text =>
      have other : char ≠ '\n' := by simpa using noNewline
      rw [unifyNewlines, List.foldr_cons, put, if_neg other]
      split <;> rfl

theorem unifyNewlines_append_return_cons (first rest : List Char) :
    unifyNewlines (first ++ '\r' :: rest) =
      unifyNewlines first ++ '\n' :: (rest.foldr Unified.put ⟨[], []⟩).afterReturn := by
  have ended : ('\r' :: rest).foldr Unified.put ⟨[], []⟩ =
      Unified.followedBy ('\n' :: (rest.foldr Unified.put ⟨[], []⟩).afterReturn) ⟨[], []⟩ := rfl
  rw [unifyNewlines, List.foldr_append, ended, Unified.foldr_put_followedBy]
  rfl

theorem unifyNewlines_append_return {second : List Char} (noNewline : second.head? ≠ some '\n')
    (first : List Char) :
    unifyNewlines (first ++ '\r' :: second) = unifyNewlines first ++ '\n' :: unifyNewlines second := by
  rw [unifyNewlines_append_return_cons, Unified.afterReturn_eq noNewline]

theorem unifyNewlines_append_return_newline (first second : List Char) :
    unifyNewlines (first ++ '\r' :: '\n' :: second) =
      unifyNewlines first ++ '\n' :: unifyNewlines second := by
  rw [unifyNewlines_append_return_cons]
  rfl

/-- A text without carriage returns has newlines for its line ends already. -/
theorem unifyNewlines_of_noReturn {text : List Char} (noReturn : '\r' ∉ text) :
    unifyNewlines text = text := by
  have passed : (text.foldr Unified.put ⟨[], []⟩).afterOther = text := by
    induction text with
    | nil => rfl
    | cons char text ih =>
        simp only [List.mem_cons, not_or] at noReturn
        rw [List.foldr_cons, Unified.put]
        split
        · next newline => rw [newline, ih noReturn.2]
        · rw [if_neg (Ne.symm noReturn.1), ih noReturn.2]
  exact passed

theorem noReturn_unifyNewlines (text : List Char) : '\r' ∉ unifyNewlines text := by
  have both : '\r' ∉ (text.foldr Unified.put ⟨[], []⟩).afterOther ∧
      '\r' ∉ (text.foldr Unified.put ⟨[], []⟩).afterReturn := by
    induction text with
    | nil => simp
    | cons char text ih =>
        rw [List.foldr_cons, Unified.put]
        split
        · simp [ih]
        · split
          · simp [ih]
          · next other => simp [ih, Ne.symm other]
  exact both.1

end SkillScan.Text
