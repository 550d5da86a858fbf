import PassTuner.Json.Printer
import PassTuner.Json.Reader
import PassTuner.Proofs.Double.Shortest

/-! Numbers read back as they are written.

A number is read as far as its characters go, so what follows it must not start with one of them.
Integers come back as integers. A finite double comes back with its bits, whichever layout its
exponent calls for. -/
namespace PassTuner.Double

theorem digitsOfDigits {n : Nat} {c : Char} (mem : c ∈ digitsOf n) : c.isDigit :=
  Nat.isDigit_of_mem_toDigits (by decide) (by decide) mem

theorem digitsOfNonempty (n : Nat) : digitsOf n ≠ [] := Nat.toDigits_ne_nil

theorem digitsValueOf (n : Nat) : digitsValue (digitsOf n) = n :=
  Nat.ofDigitChars_toDigits (by decide) (by decide)

theorem digitsValueAppend (front back : List Char) :
    digitsValue (front ++ back) = Nat.ofDigitChars 10 back (digitsValue front) :=
  Nat.ofDigitChars_append 0

theorem digitsValueZeros (front : List Char) (k : Nat) :
    digitsValue (front ++ List.replicate k '0') = digitsValue front * 10 ^ k := by
  rw [digitsValueAppend, Nat.ofDigitChars_replicate_zero, Nat.mul_comm]

theorem zerosDigitsValue (k : Nat) (digits : List Char) :
    digitsValue (List.replicate k '0' ++ digits) = digitsValue digits := by
  have zeros : digitsValue (List.replicate k '0') = 0 := by
    simpa [digitsValue] using digitsValueZeros [] k
  rw [digitsValueAppend, zeros]
  rfl

/-- Only zero is written with a zero in front. -/
theorem digitsOfHead {n : Nat} (some : 0 < n) : (digitsOf n).head? ≠ .some '0' := by
  induction n using Nat.strongRecOn with
  | ind n ih =>
    rw [digitsOf, Nat.toDigits_eq_if (by decide)]
    split
    · rename_i small
      have all : ∀ n < 10, 0 < n → ([n.digitChar] : List Char).head? ≠ .some '0' := by decide
      exact all n small some
    · rename_i large
      have shorter := ih (n / 10) (by omega) (by omega)
      rw [digitsOf] at shorter
      rwa [List.head?_append_of_ne_nil _ Nat.toDigits_ne_nil]

theorem splitDigitsAppend {digits rest : List Char} (all : ∀ c ∈ digits, c.isDigit)
    (stop : ∀ c ∈ rest.head?, ¬c.isDigit) : splitDigits (digits ++ rest) = (digits, rest) := by
  have nothing : rest.takeWhile Char.isDigit = [] ∧ rest.dropWhile Char.isDigit = rest := by
    cases rest with
    | nil => exact ⟨rfl, rfl⟩
    | cons c rest =>
      have other : ¬c.isDigit := stop c rfl
      simp [other]
  rw [splitDigits, List.takeWhile_append_of_pos all, List.dropWhile_append_of_pos all, nothing.1,
    nothing.2, List.append_nil]

end PassTuner.Double

namespace PassTuner.Json
open Double

/-- What may follow a number so that it ends there. -/
def Stops (rest : List Char) : Prop :=
  ∀ c ∈ rest.head?, ¬c.isDigit ∧ c ≠ '.' ∧ c ≠ 'e' ∧ c ≠ 'E'

theorem stopsNil : Stops [] := nofun

theorem stopsCons {c : Char} (other : ¬c.isDigit ∧ c ≠ '.' ∧ c ≠ 'e' ∧ c ≠ 'E') (rest : List Char) :
    Stops (c :: rest) := by
  intro d same
  cases same
  exact other

/-- A number after its sign. -/
def unsigned (negative : Bool) (text : List Char) : Reading Json :=
  let (whole, afterWhole) := Double.splitDigits text
  if wholeDigits? whole then
    match fraction? afterWhole with
    | none => failed
    | some (fraction, afterFraction) =>
      match exponent? afterFraction with
      | none => failed
      | some (exponent, rest) => (numberValue negative whole fraction exponent, some rest)
  else failed

theorem numberMinus (text : List Char) : number ('-' :: text) = unsigned true text := rfl

theorem numberPlain {text : List Char} (plain : text.head? ≠ some '-') :
    number text = unsigned false text := by
  unfold number unsigned
  split
  rename_i negative rest sign
  split at sign
  · exact absurd rfl plain
  · cases sign
    rfl

/-- A number in its parts: whole digits, fraction digits and exponent, up to the rest. -/
theorem unsignedParts (negative : Bool) {text afterWhole afterFraction rest whole fraction}
    {exponent : Option Int} (first : splitDigits text = (whole, afterWhole))
    (leading : wholeDigits? whole)
    (second : fraction? afterWhole = some (fraction, afterFraction))
    (third : exponent? afterFraction = some (exponent, rest)) :
    unsigned negative text = (numberValue negative whole fraction exponent, some rest) := by
  simp only [unsigned, first, leading, second, third, ↓reduceIte]

theorem wholeDigitsHead {digits : List Char} (some : digits ≠ [])
    (head : digits.head? ≠ .some '0') : wholeDigits? digits := by
  unfold wholeDigits?
  split
  · contradiction
  · rfl
  · simpa using head

theorem wholeDigitsOf (n : Nat) : wholeDigits? (digitsOf n) := by
  rcases Nat.eq_zero_or_pos n with rfl | some
  · rfl
  · exact wholeDigitsHead (digitsOfNonempty n) (digitsOfHead some)

theorem fractionNone {rest : List Char} (stops : rest.head? ≠ some '.') :
    fraction? rest = some ([], rest) := by
  unfold fraction?
  split
  · exact absurd rfl stops
  · rfl

theorem fractionDigits {digits rest : List Char} (some : digits ≠ [])
    (all : ∀ c ∈ digits, c.isDigit) (stop : ∀ c ∈ rest.head?, ¬c.isDigit) :
    fraction? ('.' :: (digits ++ rest)) = .some (digits, rest) := by
  simp [fraction?, splitDigitsAppend all stop, some]

theorem exponentNone {rest : List Char} (stops : Stops rest) :
    exponent? rest = some (none, rest) := by
  cases rest with
  | nil => rfl
  | cons c rest =>
    have other := stops c rfl
    simp [exponent?, other.2.2]

/-- An exponent with its sign: a plus may be written or left out. -/
theorem exponentSigned (exponent : Int) {rest : List Char} (stop : ∀ c ∈ rest.head?, ¬c.isDigit) :
    exponent? ('e' :: ((if exponent < 0 then ['-'] else ['+']) ++ digitsOf exponent.natAbs ++ rest)) =
      some (some exponent, rest) := by
  have digits := splitDigitsAppend (fun c => digitsOfDigits (n := exponent.natAbs)) stop
  have some := digitsOfNonempty exponent.natAbs
  split <;> simp [exponent?, splitSign, digits, some, digitsValueOf, -Nat.cast_natAbs] <;> omega

/-- What is left of an integer that is written and read: one that 64 bits do not hold is read as
a float. -/
def keptInt (i : Int) : Json :=
  if -0x8000000000000000 ≤ i ∧ i ≤ 0xffffffffffffffff then .int i
  else ofDouble (ofDecimal (decide (i < 0)) i.natAbs 0)

theorem numberInt (i : Int) {rest : List Char} (stops : Stops rest) :
    number (intText i ++ rest) = (keptInt i, some rest) := by
  have digits := splitDigitsAppend (fun c => digitsOfDigits (n := i.natAbs))
    (fun c mem => (stops c mem).1)
  have parts (negative : Bool) := unsignedParts negative digits (wholeDigitsOf i.natAbs)
    (fractionNone fun dot => (stops '.' dot).2.1 rfl) (exponentNone stops)
  rw [intText]
  split
  · rename_i below
    have some : 0 < i.natAbs := by omega
    have fits : i.natAbs ≤ 0x8000000000000000 ↔
        -0x8000000000000000 ≤ i ∧ i ≤ 0xffffffffffffffff := by omega
    have same : -(i.natAbs : Int) = i := by omega
    rw [List.cons_append, numberMinus, parts, numberValue, digitsValueOf]
    simp [keptInt, below, some, fits, same, -Nat.cast_natAbs]
  · rename_i above
    have plain : (digitsOf i.natAbs ++ rest).head? ≠ some '-' := by
      rw [List.head?_append_of_ne_nil _ (digitsOfNonempty _)]
      intro minus
      exact absurd (digitsOfDigits (List.mem_of_mem_head? minus)) (by decide)
    have fits : i.natAbs ≤ 0xffffffffffffffff ↔
        -0x8000000000000000 ≤ i ∧ i ≤ 0xffffffffffffffff := by omega
    have same : (i.natAbs : Int) = i := by omega
    rw [numberPlain plain, parts, numberValue, digitsValueOf]
    simp [keptInt, above, fits, same, -Nat.cast_natAbs]

theorem numberStart {text rest : List Char} {j : Json} (read : number text = (j, some rest)) :
    ∃ c more, text = c :: more ∧ (c = '-' ∨ c.isDigit) := by
  rcases text with _ | ⟨c, more⟩
  · exact nomatch congrArg Prod.snd read
  · refine ⟨c, more, rfl, ?_⟩
    by_contra other
    rw [not_or] at other
    have plain : (c :: more).head? ≠ some '-' := by simpa using other.1
    have none : splitDigits (c :: more) = ([], c :: more) := by simp [splitDigits, other.2]
    rw [numberPlain plain, unsigned, none] at read
    exact nomatch congrArg Prod.snd read

theorem doubleRead {negative : Bool} {whole fraction : List Char} {exponent : Option Int} {m : Nat}
    (marked : fraction ≠ [] ∨ exponent.isSome)
    (same : decimalMagnitude (digitsValue (whole ++ fraction))
      (exponent.getD 0 - (fraction.length : Int)) = m) (finite : m < infinityMagnitude) :
    numberValue negative whole fraction exponent = .float (ofMagnitude negative m) := by
  have float : (fraction.isEmpty && exponent.isNone) = false := by
    rcases marked with fraction | exponent
    · simp [fraction]
    · simp [Option.isNone_eq_false_iff.mpr exponent]
  rw [numberValue, float, ofDecimal, same, ofDouble, finiteOf negative finite]
  rfl

section

variable (negative : Bool) {m : Nat} (finite : m < infinityMagnitude) {rest : List Char}
  (stops : Stops rest)
include finite stops

theorem pointedRead (front back : List Char) (leading : wholeDigits? front)
    (frontDigits : ∀ c ∈ front, c.isDigit) (backDigits : ∀ c ∈ back, c.isDigit) (some : back ≠ [])
    (same : decimalMagnitude (digitsValue (front ++ back)) (-(back.length : Int)) = m) :
    unsigned negative (front ++ '.' :: (back ++ rest)) =
      (.float (ofMagnitude negative m), .some rest) := by
  have first : splitDigits (front ++ '.' :: (back ++ rest)) = (front, '.' :: (back ++ rest)) :=
    splitDigitsAppend frontDigits (by simp)
  have second := fractionDigits some backDigits fun c mem => (stops c mem).1
  rw [unsignedParts negative first leading second (exponentNone stops)]
  rw [doubleRead (.inl some) (by simpa using same) finite]

theorem placedRead {digits : Nat} (some : 0 < digits) {exponent : Int}
    (same : decimalMagnitude digits exponent = m) :
    unsigned negative (placePoint true (digitsOf digits)
        (exponent + (digitsOf digits).length) ++ rest) =
      (.float (ofMagnitude negative m), .some rest) := by
  have all : ∀ c ∈ digitsOf digits, c.isDigit := fun c => digitsOfDigits
  have nonempty := digitsOfNonempty digits
  have value := digitsValueOf digits
  have head := digitsOfHead some
  generalize digitsOf digits = ds at *
  have zero : ∀ k, ∀ c ∈ List.replicate k '0', c.isDigit := by
    intro k c mem
    rw [List.eq_of_mem_replicate mem]
    rfl
  rw [placePoint]
  split
  · -- all digits stand behind the point
    generalize zeros : (-(exponent + ds.length)).toNat = k
    have front : digitsValue (['0'] ++ (List.replicate k '0' ++ ds)) = digits := by
      have padded : ['0'] ++ (List.replicate k '0' ++ ds) = List.replicate (k + 1) '0' ++ ds := rfl
      rw [padded, zerosDigitsValue, value]
    have shift : -((List.replicate k '0' ++ ds).length : Int) = exponent := by
      simp only [List.length_append, List.length_replicate]
      omega
    refine pointedRead negative finite stops ['0'] _ rfl (by simp) ?_ (by simp [nonempty])
      (by rw [front, shift, same])
    exact fun c mem => (List.mem_append.mp mem).elim (zero k c) (all c)
  · generalize places : (exponent + ds.length).toNat = n
    dsimp only
    split
    · -- all digits stand before the point
      generalize zeros : n - ds.length = j
      have padded : ds ++ List.replicate j '0' ++ ['0'] = ds ++ List.replicate (j + 1) '0' := by
        rw [List.append_assoc, ← List.replicate_succ']
      have shift : -((['0'].length : Nat) : Int) = exponent - (j + 1 : Nat) := by
        simp only [List.length_singleton]
        omega
      have leading : wholeDigits? (ds ++ List.replicate j '0') := by
        refine wholeDigitsHead (by simp [nonempty]) ?_
        rwa [List.head?_append_of_ne_nil _ nonempty]
      rw [if_pos rfl, List.append_assoc, List.append_assoc, ← List.append_assoc ds]
      refine pointedRead negative finite stops _ _ leading ?_ (by simp) (by simp) ?_
      · exact fun c mem => (List.mem_append.mp mem).elim (all c) (zero j c)
      · rw [padded, digitsValueZeros, value, shift, decimalScaled, same]
    · have front : ds.take n ++ ds.drop n = ds := List.take_append_drop n ds
      have shift : -((ds.drop n).length : Int) = exponent := by
        rw [List.length_drop]
        omega
      have leading : wholeDigits? (ds.take n) := by
        refine wholeDigitsHead (by simp [nonempty]; omega) ?_
        rwa [List.head?_take, if_neg (by omega)]
      rw [List.append_assoc]
      refine pointedRead negative finite stops _ _ leading ?_ ?_ (by simp; omega)
        (by rw [front, value, shift, same])
      · exact fun c mem => all c (List.mem_of_mem_take mem)
      · exact fun c mem => all c (List.mem_of_mem_drop mem)

theorem scientificRead {digits : Nat} (some : 0 < digits) {exponent : Int}
    (same : decimalMagnitude digits exponent = m) :
    unsigned negative (withExponent true (digitsOf digits)
        (exponent + (digitsOf digits).length - 1) ++ rest) =
      (.float (ofMagnitude negative m), .some rest) := by
  have all : ∀ c ∈ digitsOf digits, c.isDigit := fun c => digitsOfDigits
  have nonempty := digitsOfNonempty digits
  have value := digitsValueOf digits
  have head := digitsOfHead some
  generalize digitsOf digits = ds at *
  have stop : ∀ c ∈ rest.head?, ¬c.isDigit := fun c mem => (stops c mem).1
  have third := exponentSigned (exponent + ds.length - 1) stop
  have letter (more : List Char) : ∀ c ∈ ('e' :: more).head?, ¬c.isDigit := by simp
  simp only [withExponent, ↓reduceIte, List.append_assoc, List.cons_append] at third ⊢
  generalize (if exponent + ds.length - 1 < 0 then ['-'] else ['+']) ++
    (digitsOf (exponent + ds.length - 1).natAbs ++ rest) = tail at third ⊢
  match ds, nonempty with
  | [lead], _ =>
    have leading : wholeDigits? [lead] := wholeDigitsHead nofun head
    have first := splitDigitsAppend all (letter tail)
    rw [unsignedParts negative first leading (fractionNone (by simp)) third]
    rw [doubleRead (.inr rfl) (by simpa [value] using same) finite]
  | lead :: next :: more, _ =>
    have leading : wholeDigits? [lead] := wholeDigitsHead nofun head
    have back : ∀ c ∈ next :: more, c.isDigit := fun c mem => all c (List.mem_cons_of_mem _ mem)
    have first : splitDigits ([lead] ++ '.' :: (next :: more ++ 'e' :: tail)) =
        ([lead], '.' :: (next :: more ++ 'e' :: tail)) :=
      splitDigitsAppend (fun c mem => all c (by simp_all)) (by simp)
    have second := fractionDigits (List.cons_ne_nil next more) back (letter tail)
    have shift : exponent + ((lead :: next :: more).length : Int) - 1 - ((next :: more).length : Int) =
        exponent := by
      simp only [List.length_cons]
      omega
    refine (unsignedParts negative first leading second third).trans ?_
    rw [doubleRead (.inr rfl) ?_ finite]
    rw [List.singleton_append, value, Option.getD_some, shift, same]

end

theorem storedShape (m : Nat) :
    let d := shortest .even m
    let leading := d.exponent + (digitsOf d.digits).length - 1
    Layout.stored.magnitude m = placePoint true (digitsOf d.digits) (leading + 1) ∨
      Layout.stored.magnitude m = withExponent true (digitsOf d.digits) leading :=
  ite_eq_or_eq ..

theorem storedRead (negative : Bool) {m : Nat} (finite : m < infinityMagnitude) {rest : List Char}
    (stops : Stops rest) :
    unsigned negative (Layout.stored.magnitude m ++ rest) =
      (.float (ofMagnitude negative m), some rest) := by
  rcases Nat.eq_zero_or_pos m with rfl | positive
  · exact pointedRead negative finite stops ['0'] ['0'] rfl (by simp) (by simp)
      (by simp) rfl
  · have same : (shortest .even m).magnitude = m := shortestMagnitude finite
    have some : 0 < (shortest .even m).digits := by
      rcases Nat.eq_zero_or_pos (shortest .even m).digits with none | some
      · rw [Decimal.magnitude, none] at same
        exact absurd same positive.ne
      · exact some
    rw [Decimal.magnitude] at same
    rcases storedShape m with placed | scientific
    · rw [placed, sub_add_cancel]
      exact placedRead negative finite stops some same
    · rw [scientific]
      exact scientificRead negative finite stops some same

theorem storedPlain {m : Nat} (finite : m < infinityMagnitude) {rest : List Char}
    (stops : Stops rest) : (Layout.stored.magnitude m ++ rest).head? ≠ some '-' := by
  intro minus
  have read := storedRead false finite stops
  obtain ⟨more, shape⟩ := List.head?_eq_some_iff.mp minus
  rw [shape] at read
  exact nomatch congrArg Prod.snd read

theorem numberFloat {x : Double} (finite : x.isFinite) {rest : List Char} (stops : Stops rest) :
    number (floatText x ++ rest) = (.float x, some rest) := by
  have bound : x.magnitude < infinityMagnitude := of_decide_eq_true finite
  have number : x.isNaN = false := decide_eq_false (by omega)
  rw [floatText, if_pos finite, Layout.text, number, if_pos finite, if_neg nofun]
  dsimp only
  split
  · rename_i negative
    rw [List.cons_append, numberMinus, storedRead true bound stops, ← negative, ofMagnitudeSelf]
  · rename_i positive
    rw [numberPlain (storedPlain bound stops), storedRead false bound stops]
    rw [Bool.not_eq_true] at positive
    rw [← positive, ofMagnitudeSelf]

end PassTuner.Json
