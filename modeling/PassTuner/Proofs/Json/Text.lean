import PassTuner.Json.Printer
import PassTuner.Json.Reader

/-! Strings read back as they are written, whatever characters they hold. -/
namespace PassTuner.Json

theorem hexDigitValue : ∀ n < 16, hexValue? (hexDigit n) = some n := by decide

theorem controlUnit {c : Char} (control : c.toNat < 0x20) :
    hexUnit? '0' '0' (hexDigit (c.toNat / 16)) (hexDigit (c.toNat % 16)) = some c.toNat := by
  have high := hexDigitValue (c.toNat / 16) (by omega)
  have low := hexDigitValue (c.toNat % 16) (by omega)
  have zero : hexValue? '0' = some 0 := rfl
  simp only [hexUnit?, zero, high, low, bind, Option.bind]
  congr 1
  omega

theorem pushControl {c : Char} (control : c.toNat < 0x20) (p : Partial) :
    p.pushUnit c.toNat = p.push c := by
  rw [Partial.pushUnit, if_neg (by omega), if_neg (by omega), Char.ofNat_toNat]

theorem plainRead {c : Char} (quote : c ≠ '"') (backslash : c ≠ '\\') (visible : 0x20 ≤ c.toNat)
    (rest : List Char) (p : Partial) : stringBody (c :: rest) p = stringBody rest (p.push c) := by
  rw [stringBody]
  · rw [if_neg (by simp [backslash]; omega)]
  · exact quote
  · exact fun a b c d more same _ => backslash same
  · exact fun c more same _ => backslash same

theorem escapeRead (c : Char) (rest : List Char) (p : Partial) :
    stringBody (escape c ++ rest) p = stringBody rest (p.push c) := by
  have named {n : Nat} (same : c.toNat = n) : c = Char.ofNat n := by
    rw [← same, Char.ofNat_toNat]
  unfold escape
  split
  · subst_vars; rfl
  split
  · subst_vars; rfl
  split
  · rename_i quote backslash visible
    exact plainRead quote backslash visible rest p
  split
  · rename_i same
    rw [named same]
    rfl
  split
  · rename_i same
    rw [named same]
    rfl
  split
  · subst_vars; rfl
  split
  · subst_vars; rfl
  split
  · subst_vars; rfl
  · have control : c.toNat < 0x20 := by omega
    simp only [List.cons_append, List.nil_append, stringBody, controlUnit control,
      pushControl control]

theorem escapedRead (s rest held : List Char) :
    stringBody (s.flatMap escape ++ '"' :: rest) ⟨some held, none⟩ =
      some (some (String.ofList (held.reverse ++ s)), rest) := by
  induction s generalizing held with
  | nil => simp [stringBody, Partial.finish]
  | cons c s ih =>
    rw [List.flatMap_cons, List.append_assoc, escapeRead]
    refine (ih (c :: held)).trans ?_
    rw [List.reverse_cons, List.append_assoc, List.singleton_append]

theorem stringRead (s : String) (rest : List Char) :
    stringBody (s.toList.flatMap escape ++ '"' :: rest) .empty = some (some s, rest) := by
  refine (escapedRead s.toList rest []).trans ?_
  rw [List.reverse_nil, List.nil_append, String.ofList_toList]

end PassTuner.Json
