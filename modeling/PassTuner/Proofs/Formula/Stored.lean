import PassTuner.Formula.Stored
import PassTuner.Proofs.Json.Decoding

/-! Formula records in stored data are read back as they were written.

A record fits if no float in it is lost and its nodes stay within the nesting limit. The record of
each kind is decoded from its own fields, and a hole in any of them refuses it. -/
namespace PassTuner

theorem ValueType.typeRead (ty : ValueType) : ofJson ty.toJson = .ok ty := by
  cases ty <;> rfl

theorem ValueType.typeKept (ty : ValueType) (room : Nat) :
    Json.kept room ty.toJson = ty.toJson := by
  cases ty <;> rfl

theorem Value.valueRestored (room : Nat) :
    Json.Restores Value.toJson Value.ofJson room fun value => value.isNonFinite = false := by
  intro x y
  cases x with
  | int i =>
    have least := Int64.minValue_le_toInt i
    have greatest := Int64.toInt_le i
    have kept : Json.kept room (Value.int i).toJson = .int i.toInt := by
      rw [toJson, Json.kept, Json.keptInt, if_pos]
      exact ⟨least, Int.le_trans greatest (by decide)⟩
    rw [kept, ofJson, if_pos ⟨least, greatest⟩, Int64.ofInt_toInt]
    exact Checked.passed rfl
  | float x =>
    rw [toJson, Json.kept]
    cases finite : x.isFinite with
    | true => exact Checked.passed (by simp [isNonFinite, finite])
    | false => exact Checked.refused (by simp [isNonFinite, finite])
  | bool b => exact Checked.passed rfl
  | string s => exact Checked.passed rfl

theorem Value.valueReadable {j : Json} {v : Value} (ok : ofJson j = .ok v) : j.readable := by
  cases j <;> first | rfl | contradiction

namespace FormulaRecord

/-- The record that the fields behind the declared type give. -/
def ofTyped (declared : ValueType) (fields : List (String × Part)) :
    Except ReadError FormulaRecord := do
  let kind ← declaredKind fields
  let (_, parts) ← Json.fillFields (slots kind) (fun _ => .ok ()) fields [] {}
  match ofParts? declared kind parts with
  | some record => .ok record
  | none => Json.refuse

theorem typeReadable {j : Json} {ty : ValueType} (ok : ValueType.ofJson j = .ok ty) :
    j.readable := by
  cases j <;> first | rfl | contradiction

theorem declaredReadable {fields : List (String × Part)} {found declared : Option ValueType}
    (ok : declaredType fields found = .ok declared) : ∀ field ∈ fields, field.2.tree.readable := by
  induction fields generalizing found with
  | nil => nofun
  | cons field rest ih =>
    obtain ⟨name, part⟩ := field
    rw [declaredType] at ok
    refine List.forall_mem_cons.mpr ?_
    split at ok
    · split at ok <;> try contradiction
      obtain ⟨ty, here, ok⟩ := Checked.bindOk.mp ok
      exact ⟨typeReadable here, ih ok⟩
    · split at ok <;> try contradiction
      rename_i readable
      exact ⟨readable, ih ok⟩

theorem partsReadable {fields : List (String × Json)} :
    (∀ field ∈ partsOf fields, field.2.tree.readable) ↔ ∀ field ∈ fields, field.2.readable := by
  induction fields with
  | nil => exact ⟨nofun, nofun⟩
  | cons field rest ih =>
    obtain ⟨name, tree⟩ := field
    rw [partsOf, List.forall_mem_cons, List.forall_mem_cons, ih]
    rfl

theorem readableObject {fields : List (String × Json)} :
    (Json.object fields).readable ↔ ∀ field ∈ fields, field.2.readable := by
  rw [Json.readable, Json.free]
  induction fields with
  | nil => exact ⟨nofun, fun _ => rfl⟩
  | cons field rest ih =>
    obtain ⟨name, tree⟩ := field
    rw [Json.freeFields, Bool.and_eq_true, List.forall_mem_cons, ih]
    rfl

/-- No record is read from a tree with a hole. -/
theorem readableOfRead {j : Json} {r : FormulaRecord} (ok : ofJson j = .ok r) : j.readable := by
  cases j with
  | object fields =>
    obtain ⟨found, types, _⟩ := Checked.bindOk.mp ok
    exact readableObject.mpr (partsReadable.mp (declaredReadable types))
  | _ => contradiction

theorem declaredFound {fields : List (String × Json)} (plain : ∀ field ∈ fields, field.1 ≠ "type")
    (readable : ∀ field ∈ fields, field.2.readable) (found : Option ValueType) :
    declaredType (partsOf fields) found = .ok found := by
  induction fields with
  | nil => rfl
  | cons field rest ih =>
    obtain ⟨other, plain⟩ := List.forall_mem_cons.mp plain
    obtain ⟨here, later⟩ := List.forall_mem_cons.mp readable
    rw [partsOf, partOf, declaredType, if_neg other, if_pos here]
    exact ih plain later

theorem typedRead {fields : List (String × Json)} (plain : ∀ field ∈ fields, field.1 ≠ "type")
    (declared : ValueType) {r : FormulaRecord} :
    ofJson (.object (("type", declared.toJson) :: fields)) = .ok r ↔
      (∀ field ∈ fields, field.2.readable) ∧ ofTyped declared (partsOf fields) = .ok r := by
  have types : declaredType (partOf ("type", declared.toJson) :: partsOf fields) none =
      declaredType (partsOf fields) (some declared) := by
    rw [partOf, declaredType, if_pos rfl, ValueType.typeRead]
    rfl
  have kinds : declaredKind (partOf ("type", declared.toJson) :: partsOf fields) =
      declaredKind (partsOf fields) := by
    simp [partOf, declaredKind]
  have passed (kind : FormulaKind) :
      Json.fillFields (slots kind) (fun _ => .ok ())
        (partOf ("type", declared.toJson) :: partsOf fields) [] {} =
      Json.fillFields (slots kind) (fun _ => .ok ()) (partsOf fields) [] {} := by
    cases kind <;> rfl
  rw [ofJson, partsOf, ofFields, types]
  constructor
  · intro ok
    obtain ⟨found, types, _⟩ := Checked.bindOk.mp ok
    have readable := partsReadable.mp (declaredReadable types)
    rw [declaredFound plain readable] at ok
    simp only [kinds, passed] at ok
    exact ⟨readable, ok⟩
  · rintro ⟨readable, ok⟩
    rw [declaredFound plain readable]
    simp only [kinds, passed]
    exact ok

section Kinds

variable {declared : ValueType} {r : FormulaRecord}

theorem literalRead {value : Json} :
    ofJson (.object [("type", declared.toJson), ("kind", .string "literal"), ("value", value)]) =
      .ok r ↔ ∃ v, Value.ofJson value = .ok v ∧ .literal declared v = r := by
  have body : ofTyped declared (partsOf [("kind", .string "literal"), ("value", value)]) =
      (Value.ofJson value).map (.literal declared) := by
    have filled : Json.fillFields (slots .literal) (fun _ => .ok ())
        (partsOf [("kind", .string "literal"), ("value", value)]) [] {} =
        (Value.ofJson value).map fun v => (["value"], { value := some v }) := by
      change (((Value.ofJson value).map fun v => ({ value := some v } : Parts)) >>=
        fun parts => .ok (["value"], parts)) = _
      cases Value.ofJson value <;> rfl
    change (Json.fillFields (slots .literal) _ _ [] {} >>= _) = _
    rw [filled]
    cases Value.ofJson value <;> rfl
  refine (typedRead (by simp) declared).trans ?_
  rw [body, Checked.mapOk]
  refine ⟨And.right, fun source => ⟨?_, source⟩⟩
  obtain ⟨v, read, _⟩ := source
  simpa [Json.readable, Json.free] using Value.valueReadable read

theorem featureRead {ref : FeatureRef} :
    ofJson (.object [("type", declared.toJson), ("kind", .string "feature"),
      ("feature", .string ref.name), ("sub", .string ref.sub)]) = .ok r ↔
        .feature declared ref = r := by
  refine (typedRead (by simp) declared).trans ?_
  refine ⟨fun ⟨_, ok⟩ => Except.ok.inj ok, fun same => ⟨?_, congrArg _ same⟩⟩
  simp [Json.readable, Json.free]

theorem arithmeticRead {op : ArithOp} {lhs rhs : Json} :
    ofJson (.object [("type", declared.toJson), ("kind", .string "arithmetic"),
        ("op", .string op.symbol), ("lhs", lhs), ("rhs", rhs)]) = .ok r ↔
      ∃ a, ofJson lhs = .ok a ∧ ∃ b, ofJson rhs = .ok b ∧ .arithmetic declared op a b = r := by
  have body : ofTyped declared (partsOf [("kind", .string "arithmetic"), ("op", .string op.symbol),
        ("lhs", lhs), ("rhs", rhs)]) =
      ofJson lhs >>= fun a => (ofJson rhs).map (.arithmetic declared op a) := by
    simp only [partsOf, partOf]
    cases op <;> cases ofJson lhs <;> cases ofJson rhs <;> rfl
  refine (typedRead (by simp) declared).trans ?_
  simp only [body, Checked.bindOk, Checked.mapOk]
  refine ⟨And.right, fun source => ⟨?_, source⟩⟩
  obtain ⟨a, left, b, right, _⟩ := source
  simpa [Json.readable, Json.free] using And.intro (readableOfRead left) (readableOfRead right)

theorem booleanRead {operandType : ValueType} {op : BoolOp} {lhs rhs : Json} :
    ofJson (.object [("type", declared.toJson), ("kind", .string "boolean"),
        ("op_type", operandType.toJson), ("op", .string op.symbol), ("lhs", lhs),
        ("rhs", rhs)]) = .ok r ↔
      ∃ a, ofJson lhs = .ok a ∧ ∃ b, ofJson rhs = .ok b ∧
        .boolean declared operandType op a b = r := by
  have body : ofTyped declared (partsOf [("kind", .string "boolean"),
        ("op_type", operandType.toJson), ("op", .string op.symbol), ("lhs", lhs), ("rhs", rhs)]) =
      ofJson lhs >>= fun a => (ofJson rhs).map (.boolean declared operandType op a) := by
    simp only [partsOf, partOf]
    cases operandType <;> cases op <;> cases ofJson lhs <;> cases ofJson rhs <;> rfl
  refine (typedRead (by simp) declared).trans ?_
  simp only [body, Checked.bindOk, Checked.mapOk]
  refine ⟨And.right, fun source => ⟨?_, source⟩⟩
  obtain ⟨a, left, b, right, _⟩ := source
  have operand : operandType.toJson.readable := typeReadable (ValueType.typeRead operandType)
  simpa [Json.readable, Json.free] using
    And.intro operand (And.intro (readableOfRead left) (readableOfRead right))

theorem conditionalRead {condition whenTrue whenFalse : Json} :
    ofJson (.object [("type", declared.toJson), ("kind", .string "conditional"),
        ("cond", condition), ("then", whenTrue), ("else", whenFalse)]) = .ok r ↔
      ∃ c, ofJson condition = .ok c ∧ ∃ a, ofJson whenTrue = .ok a ∧
        ∃ b, ofJson whenFalse = .ok b ∧ .conditional declared c a b = r := by
  have body : ofTyped declared (partsOf [("kind", .string "conditional"), ("cond", condition),
        ("then", whenTrue), ("else", whenFalse)]) =
      ofJson condition >>= fun c => ofJson whenTrue >>= fun a =>
        (ofJson whenFalse).map (.conditional declared c a) := by
    simp only [partsOf, partOf]
    cases ofJson condition <;> cases ofJson whenTrue <;> cases ofJson whenFalse <;> rfl
  refine (typedRead (by simp) declared).trans ?_
  simp only [body, Checked.bindOk, Checked.mapOk]
  refine ⟨And.right, fun source => ⟨?_, source⟩⟩
  obtain ⟨c, test, a, onTrue, b, onFalse, _⟩ := source
  simpa [Json.readable, Json.free] using
    And.intro (readableOfRead test) (And.intro (readableOfRead onTrue) (readableOfRead onFalse))

end Kinds

/-- Whether a record survives being written: no float in it is lost, and its nodes stay within so
many levels of nesting. -/
def Fits (room : Nat) : FormulaRecord → Prop
  | .literal _ value => 0 < room ∧ value.isNonFinite = false
  | .feature _ _ => 0 < room
  | .arithmetic _ _ lhs rhs | .boolean _ _ _ lhs rhs =>
    0 < room ∧ lhs.Fits (room - 1) ∧ rhs.Fits (room - 1)
  | .conditional _ condition whenTrue whenFalse =>
    0 < room ∧ condition.Fits (room - 1) ∧ whenTrue.Fits (room - 1) ∧ whenFalse.Fits (room - 1)

theorem fitsRoom {r : FormulaRecord} {room : Nat} (fits : r.Fits room) : 0 < room := by
  cases r with
  | feature => exact fits
  | _ => exact fits.1

/-- A record is an object, so it is not read where no level of nesting is left. -/
theorem recordUnroomy (r s : FormulaRecord) :
    ofJson (Json.kept 0 r.toJson) = .ok s ↔ r.Fits 0 ∧ r = s := by
  have hole : ofJson (Json.kept 0 r.toJson) = Json.refuse := by cases r <;> rfl
  rw [hole]
  exact ⟨nofun, fun ⟨fits, _⟩ => absurd (fitsRoom fits) (Nat.lt_irrefl 0)⟩

theorem recordRestored (room : Nat) : Json.Restores toJson ofJson room (Fits room) := by
  intro r s
  induction r generalizing room s with
  | literal declared value =>
    rcases room with _ | room
    · exact recordUnroomy _ s
    · simp only [toJson, Json.keptObject, Json.keptFields, Json.keptField, ValueType.typeKept,
        Json.keptString, literalRead, Fits, Nat.succ_pos, true_and, Value.valueRestored room value _,
        and_assoc, exists_and_left, exists_eq_left']
  | feature declared ref =>
    rcases room with _ | room
    · exact recordUnroomy _ s
    · simp only [toJson, Json.keptObject, Json.keptFields, Json.keptField, ValueType.typeKept,
        Json.keptString, featureRead, Fits, Nat.succ_pos, true_and]
  | arithmetic declared op lhs rhs left right =>
    rcases room with _ | room
    · exact recordUnroomy _ s
    · simp only [toJson, Json.keptObject, Json.keptFields, Json.keptField, ValueType.typeKept,
        Json.keptString, arithmeticRead, Fits, Nat.succ_pos, true_and,
        left, right, and_assoc, exists_and_left, exists_eq_left', Nat.add_sub_cancel]
  | boolean declared operandType op lhs rhs left right =>
    rcases room with _ | room
    · exact recordUnroomy _ s
    · simp only [toJson, Json.keptObject, Json.keptFields, Json.keptField, ValueType.typeKept,
        Json.keptString, booleanRead, Fits, Nat.succ_pos, true_and,
        left, right, and_assoc, exists_and_left, exists_eq_left', Nat.add_sub_cancel]
  | conditional declared condition whenTrue whenFalse test onTrue onFalse =>
    rcases room with _ | room
    · exact recordUnroomy _ s
    · simp only [toJson, Json.keptObject, Json.keptFields, Json.keptField, ValueType.typeKept,
        Json.keptString, conditionalRead, Fits, Nat.succ_pos, true_and,
        test, onTrue, onFalse, and_assoc, exists_and_left, exists_eq_left', Nat.add_sub_cancel]

end FormulaRecord

namespace Formula

/-- Whether every float literal of a formula is finite. -/
def FiniteLiterals : Formula → Prop
  | .literal value => value.isNonFinite = false
  | .feature _ _ => True
  | .arithmetic _ _ lhs rhs | .boolean _ _ lhs rhs => lhs.FiniteLiterals ∧ rhs.FiniteLiterals
  | .conditional _ condition whenTrue whenFalse =>
    condition.FiniteLiterals ∧ whenTrue.FiniteLiterals ∧ whenFalse.FiniteLiterals

instance decidableFiniteLiterals : (f : Formula) → Decidable f.FiniteLiterals
  | .literal value => inferInstanceAs (Decidable (value.isNonFinite = false))
  | .feature _ _ => .isTrue trivial
  | .arithmetic _ _ lhs rhs | .boolean _ _ lhs rhs =>
    have := decidableFiniteLiterals lhs
    have := decidableFiniteLiterals rhs
    inferInstanceAs (Decidable (_ ∧ _))
  | .conditional _ condition whenTrue whenFalse =>
    have := decidableFiniteLiterals condition
    have := decidableFiniteLiterals whenTrue
    have := decidableFiniteLiterals whenFalse
    inferInstanceAs (Decidable (_ ∧ _ ∧ _))

theorem recordFits (f : Formula) (room : Nat) :
    f.toRecord.Fits room ↔ f.FiniteLiterals ∧ f.depth < room := by
  induction f generalizing room with
  | literal value => exact and_comm
  | feature type ref => simp only [toRecord, FormulaRecord.Fits, FiniteLiterals, depth, true_and]
  | arithmetic type op lhs rhs left right =>
    simp only [toRecord, FormulaRecord.Fits, FiniteLiterals, depth, left, right]
    grind
  | boolean operandType op lhs rhs left right =>
    simp only [toRecord, FormulaRecord.Fits, FiniteLiterals, depth, left, right]
    grind
  | conditional type condition whenTrue whenFalse test onTrue onFalse =>
    simp only [toRecord, FormulaRecord.Fits, FiniteLiterals, depth, test, onTrue, onFalse]
    grind

end Formula

end PassTuner
