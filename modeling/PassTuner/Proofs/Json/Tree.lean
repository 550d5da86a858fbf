import PassTuner.Json.Decoding
import PassTuner.Proofs.Json.Number
import PassTuner.Proofs.Json.Text

/-! Trees read back as they are written, as far as a text can hold them.

`kept` says what is left of a tree that is written and read again: containers beyond the nesting
limit become holes, and floats that are not finite become `null`. Neither layout makes a
difference. -/
namespace PassTuner.Json

mutual

/-- What is left of a tree that is written and read with so many levels of nesting. -/
def kept (room : Nat) : Json → Json
  | .null => .null
  | .bool b => .bool b
  | .int i => keptInt i
  | .float x => if x.isFinite then .float x else .null
  | .string s => .string s
  | .array items => if room = 0 then .fault .unreadable else .array (keptItems (room - 1) items)
  | .object fields => if room = 0 then .fault .unreadable else .object (keptFields (room - 1) fields)
  | .fault _ => .null
  termination_by structural j => j

def keptItems (room : Nat) : List Json → List Json
  | [] => []
  | item :: rest => kept room item :: keptItems room rest
  termination_by structural items => items

def keptFields (room : Nat) : List (String × Json) → List (String × Json)
  | [] => []
  | field :: rest => keptField room field :: keptFields room rest
  termination_by structural fields => fields

def keptField (room : Nat) : String × Json → String × Json
  | (name, value) => (name, kept room value)
  termination_by structural field => field

end

theorem skipSpaceCons {c : Char} (solid : isSpace c = false) (rest : List Char) :
    skipSpace (c :: rest) = c :: rest := by
  simp [skipSpace, solid]

theorem skipSpaceTwice (text : List Char) : skipSpace (skipSpace text) = skipSpace text := by
  induction text with
  | nil => rfl
  | cons c rest ih =>
    cases solid : isSpace c with
    | true => simpa [skipSpace, solid] using ih
    | false => rw [skipSpaceCons solid, skipSpaceCons solid]

theorem skipBreak (style : Style) (level : Nat) (text : List Char) :
    skipSpace (style.break level ++ text) = skipSpace text := by
  cases style with
  | compact => rfl
  | indented =>
    have space : ∀ c ∈ Style.indented.break level, isSpace c := by
      simp [Style.break, isSpace]
    rw [skipSpace, List.dropWhile_append_of_pos space, ← skipSpace]

theorem valueSkip (fuel room : Nat) (text : List Char) :
    value fuel room (skipSpace text) = value fuel room text := by
  cases fuel with
  | zero => rfl
  | succ fuel => rw [value, value, skipSpaceTwice]

theorem itemsSkip (fuel room : Nat) (text : List Char) :
    items fuel room (skipSpace text) = items fuel room text := by
  cases fuel with
  | zero => rfl
  | succ fuel => rw [items, items, valueSkip]

theorem fieldsSkip (fuel room : Nat) (text : List Char) :
    fields fuel room (skipSpace text) = fields fuel room text := by
  cases fuel with
  | zero => rfl
  | succ fuel => rw [fields, fields, skipSpaceTwice]

theorem numberSolid {c : Char} (start : c = '-' ∨ c.isDigit) :
    isSpace c = false ∧ c ≠ ']' ∧ c ≠ '\x7d' ∧ c ≠ 'n' ∧ c ≠ 't' ∧ c ≠ 'f' ∧ c ≠ '"' ∧ c ≠ '[' ∧
      c ≠ '\x7b' := by
  have other (d : Char) (apart : ¬(d = '-' ∨ d.isDigit)) : c ≠ d := by
    rintro rfl
    exact apart start
  refine ⟨?_, other _ (by decide), other _ (by decide), other _ (by decide), other _ (by decide),
    other _ (by decide), other _ (by decide), other _ (by decide), other _ (by decide)⟩
  simp [isSpace, other ' ' (by decide), other '\t' (by decide), other '\n' (by decide),
    other '\r' (by decide)]

theorem valueNumber (fuel room : Nat) {text rest : List Char} {j : Json}
    (read : number text = (j, some rest)) : value (fuel + 1) room text = (j, some rest) := by
  obtain ⟨c, more, rfl, start⟩ := numberStart read
  obtain ⟨solid, _, _, n, t, f, quote, bracket, brace⟩ := numberSolid start
  rw [value, skipSpaceCons solid]
  split <;> simp_all

/-- What a written tree starts with. -/
theorem writeStart (style : Style) (level : Nat) (j : Json) :
    ∃ c more, write style level j = c :: more ∧ isSpace c = false ∧ c ≠ ']' ∧ c ≠ '\x7d' := by
  have ofNumber {text rest : List Char} {j : Json} (read : number text = (j, some rest)) :
      ∃ c more, text = c :: more ∧ isSpace c = false ∧ c ≠ ']' ∧ c ≠ '\x7d' := by
    obtain ⟨c, more, same, start⟩ := numberStart read
    obtain ⟨solid, bracket, brace, _⟩ := numberSolid start
    exact ⟨c, more, same, solid, bracket, brace⟩
  cases j with
  | null => exact ⟨'n', _, rfl, by decide⟩
  | fault why => exact ⟨'n', _, rfl, by decide⟩
  | bool b => cases b <;> exact ⟨_, _, rfl, by decide⟩
  | int i =>
    have read := numberInt i stopsNil
    rw [List.append_nil] at read
    exact ofNumber read
  | float x =>
    cases finite : x.isFinite with
    | true =>
      have read := numberFloat finite stopsNil
      rw [List.append_nil] at read
      exact ofNumber read
    | false => exact ⟨'n', _, by rw [write, floatText, finite]; rfl, by decide⟩
  | string s => exact ⟨'"', _, rfl, by decide⟩
  | array items =>
    cases items with
    | nil => exact ⟨'[', _, rfl, by decide⟩
    | cons item rest => exact ⟨'[', _, rfl, by decide⟩
  | object fields =>
    cases fields with
    | nil => exact ⟨'\x7b', _, rfl, by decide⟩
    | cons field rest => exact ⟨'\x7b', _, rfl, by decide⟩

theorem stopsBreak (style : Style) (level : Nat) {c : Char}
    (other : ¬c.isDigit ∧ c ≠ '.' ∧ c ≠ 'e' ∧ c ≠ 'E') (rest : List Char) :
    Stops (style.break level ++ c :: rest) := by
  cases style with
  | compact => exact stopsCons other rest
  | indented => exact stopsCons (by decide) _

variable {style : Style} {level fuel room : Nat} {rest : List Char}

theorem nullRead : value (fuel + 1) room ("null".toList ++ rest) = (.null, some rest) := rfl

theorem boolRead (b : Bool) :
    value (fuel + 1) room (write style level (.bool b) ++ rest) = (.bool b, some rest) := by
  cases b <;> rfl

theorem textRead (s : String) :
    value (fuel + 1) room (stringText s ++ rest) = (.string s, some rest) := by
  have body := stringRead s rest
  rw [stringText, List.cons_append, List.append_assoc, List.singleton_append, value,
    skipSpaceCons rfl]
  simp only [body]

theorem floatRead (x : Double) (stops : Stops rest) :
    value (fuel + 1) room (write style level (.float x) ++ rest) =
      (kept room (.float x), some rest) := by
  rw [write, kept]
  split
  · rename_i finite
    exact valueNumber fuel room (numberFloat finite stops)
  · rename_i infinite
    rw [floatText, if_neg infinite]
    exact nullRead

theorem limitRead {room : Nat} {j : Json} :
    limit room (j, some rest) = (if room = 0 then .fault .unreadable else j, some rest) := by
  rw [limit]
  split <;> rfl

theorem arrayRead {text : List Char} {inside : List Json}
    (start : ∀ after, skipSpace text ≠ ']' :: after)
    (read : items fuel (room - 1) text = (inside, some rest)) :
    value (fuel + 1) room ('[' :: text) =
      (if room = 0 then .fault .unreadable else .array inside, some rest) := by
  simp only [value, skipSpaceCons (c := '[') rfl, itemsSkip, read, limitRead]

theorem objectRead {text : List Char} {inside : List (String × Json)}
    (start : ∀ after, skipSpace text ≠ '\x7d' :: after)
    (read : fields fuel (room - 1) text = (inside, some rest)) :
    value (fuel + 1) room ('\x7b' :: text) =
      (if room = 0 then .fault .unreadable else .object inside, some rest) := by
  simp only [value, skipSpaceCons (c := '\x7b') rfl, fieldsSkip, read, limitRead]

theorem lastItem {text : List Char} {item : Json} {up : Nat}
    (read : value fuel room text = (item, some (style.break up ++ ']' :: rest))) :
    items (fuel + 1) room text = ([item], some rest) := by
  rw [items, read]
  simp only [skipBreak, skipSpaceCons (c := ']') rfl]

theorem nextItem {text more : List Char} {item : Json} {others : List Json}
    (read : value fuel room text = (item, some (',' :: more)))
    (reads : items fuel room more = (others, some rest)) :
    items (fuel + 1) room text = (item :: others, some rest) := by
  rw [items, read]
  simp only [skipSpaceCons (c := ',') rfl, reads]

theorem nameStart (name : String) (level : Nat) (text : List Char) :
    skipSpace (style.break level ++ (stringText name ++ text)) =
      '"' :: (name.toList.flatMap escape ++ '"' :: text) := by
  rw [skipBreak, stringText, List.cons_append, skipSpaceCons rfl, List.append_assoc,
    List.singleton_append]

theorem colonStart (text : List Char) :
    skipSpace (style.colon ++ text) = ':' :: (style.colon.tail ++ text) := by
  cases style <;> rfl

theorem valueColon (text : List Char) :
    value fuel room (style.colon.tail ++ text) = value fuel room text := by
  rw [← valueSkip fuel room text, ← valueSkip]
  cases style <;> rfl

theorem lastField {text : List Char} {name : String} {tree : Json} {up : Nat} (level : Nat)
    (read : value fuel room text = (tree, some (style.break up ++ '\x7d' :: rest))) :
    fields (fuel + 1) room (style.break level ++ (stringText name ++ (style.colon ++ text))) =
      ([(name, tree)], some rest) := by
  rw [fields, nameStart]
  simp only [stringRead, colonStart, valueColon, read, field, skipBreak,
    skipSpaceCons (c := '\x7d') rfl]

theorem nextField {text more : List Char} {name : String} {tree : Json}
    {others : List (String × Json)} (level : Nat)
    (read : value fuel room text = (tree, some (',' :: more)))
    (reads : fields fuel room more = (others, some rest)) :
    fields (fuel + 1) room (style.break level ++ (stringText name ++ (style.colon ++ text))) =
      ((name, tree) :: others, some rest) := by
  rw [fields, nameStart]
  simp only [stringRead, colonStart, valueColon, read, field, skipSpaceCons (c := ',') rfl, reads]

theorem closerStops (level : Nat) {c : Char} (closer : c = ']' ∨ c = '\x7d') :
    Stops (style.break level ++ c :: rest) := by
  rcases closer with rfl | rfl <;> exact stopsBreak style level (by decide) rest

theorem commaStops (more : List Char) : Stops (',' :: more) := stopsCons (by decide) more

theorem itemsStart (item : Json) (more : List Json) (tail after : List Char) :
    skipSpace (writeItems style level (item :: more) ++ tail) ≠ ']' :: after := by
  obtain ⟨c, text, written, solid, bracket, _⟩ := writeStart style level item
  rw [writeItems, List.append_assoc, List.append_assoc, skipBreak, written, List.cons_append,
    skipSpaceCons solid]
  exact fun same => bracket (List.cons.inj same).1

theorem fieldsStart (field : String × Json) (more : List (String × Json)) (tail after : List Char) :
    skipSpace (writeFields style level (field :: more) ++ tail) ≠ '\x7d' :: after := by
  rw [writeFields, List.append_assoc, List.append_assoc, skipBreak, writeField, stringText]
  simp [skipSpaceCons (c := '"') rfl]

mutual

theorem valueRead : (j : Json) → (level fuel room : Nat) → (rest : List Char) →
    2 * (write style level j).length ≤ fuel + 1 → Stops rest →
    value fuel room (write style level j ++ rest) = (kept room j, some rest)
  | j, level, 0, room, rest, enough, _ => by
    obtain ⟨c, more, written, _⟩ := writeStart style level j
    rw [written, List.length_cons] at enough
    omega
  | .null, level, fuel + 1, room, rest, _, _ => nullRead
  | .fault _, level, fuel + 1, room, rest, _, _ => nullRead
  | .bool b, level, fuel + 1, room, rest, _, _ => boolRead b
  | .int i, level, fuel + 1, room, rest, _, stops => valueNumber fuel room (numberInt i stops)
  | .float x, level, fuel + 1, room, rest, _, stops => floatRead x stops
  | .string s, level, fuel + 1, room, rest, _, _ => textRead s
  | .array [], level, fuel + 1, room, rest, _, _ => limitRead
  | .object [], level, fuel + 1, room, rest, _, _ => limitRead
  | .array (item :: more), level, fuel + 1, room, rest, enough, _ => by
    rw [write, List.length_cons, List.length_append, List.length_append, List.length_singleton] at enough
    have inside := itemsRead (item :: more) nofun level (level + 1) fuel (room - 1) rest (by omega)
    rw [write, List.cons_append, List.append_assoc, List.append_assoc]
    exact arrayRead (itemsStart item more _) inside
  | .object (field :: more), level, fuel + 1, room, rest, enough, _ => by
    rw [write, List.length_cons, List.length_append, List.length_append, List.length_singleton] at enough
    have inside := fieldsRead (field :: more) nofun level (level + 1) fuel (room - 1) rest (by omega)
    rw [write, List.cons_append, List.append_assoc, List.append_assoc]
    exact objectRead (fieldsStart field more _) inside

theorem itemsRead : (xs : List Json) → xs ≠ [] → (up level fuel room : Nat) →
    (rest : List Char) → 2 * (writeItems style level xs).length ≤ fuel →
    items fuel room (writeItems style level xs ++ (style.break up ++ ']' :: rest)) =
      (keptItems room xs, some rest)
  | [], filled, _, _, _, _, _, _ => absurd rfl filled
  | item :: more, _, up, level, fuel, room, rest, enough => by
    obtain ⟨c, text, written, _⟩ := writeStart style level item
    simp only [writeItems, List.length_append, written, List.length_cons] at enough
    obtain ⟨fuel, rfl⟩ : ∃ n, fuel = n + 1 := ⟨fuel - 1, by omega⟩
    rw [writeItems, List.append_assoc, List.append_assoc, ← itemsSkip, skipBreak, itemsSkip]
    cases more with
    | nil =>
      have read := valueRead item level fuel room (style.break up ++ ']' :: rest)
        (by rw [written, List.length_cons]; omega) (closerStops up (.inl rfl))
      exact lastItem read
    | cons next others =>
      simp only [List.isEmpty_cons, List.length_cons, Bool.false_eq_true, ↓reduceIte] at enough ⊢
      have read := valueRead item level fuel room
        (',' :: (writeItems style level (next :: others) ++ (style.break up ++ ']' :: rest)))
        (by rw [written, List.length_cons]; omega) (commaStops _)
      exact nextItem read (itemsRead (next :: others) nofun up level fuel room rest (by omega))

theorem fieldsRead : (xs : List (String × Json)) → xs ≠ [] → (up level fuel room : Nat) →
    (rest : List Char) → 2 * (writeFields style level xs).length ≤ fuel →
    fields fuel room (writeFields style level xs ++ (style.break up ++ '\x7d' :: rest)) =
      (keptFields room xs, some rest)
  | [], filled, _, _, _, _, _, _ => absurd rfl filled
  | (name, tree) :: more, _, up, level, fuel, room, rest, enough => by
    obtain ⟨c, text, written, _⟩ := writeStart style level tree
    simp only [writeFields, writeField, List.length_append, written, List.length_cons] at enough
    obtain ⟨fuel, rfl⟩ : ∃ n, fuel = n + 1 := ⟨fuel - 1, by omega⟩
    rw [writeFields, writeField]
    simp only [List.append_assoc]
    cases more with
    | nil =>
      have read := valueRead tree level fuel room (style.break up ++ '\x7d' :: rest)
        (by rw [written, List.length_cons]; omega) (closerStops up (.inr rfl))
      exact lastField level read
    | cons next others =>
      simp only [List.isEmpty_cons, List.length_cons, Bool.false_eq_true, ↓reduceIte] at enough ⊢
      have read := valueRead tree level fuel room
        (',' :: (writeFields style level (next :: others) ++ (style.break up ++ '\x7d' :: rest)))
        (by rw [written, List.length_cons]; omega) (commaStops _)
      exact nextField level read (fieldsRead (next :: others) nofun up level fuel room rest (by omega))

end

/-- The text of a tree in either layout reads back as what is kept of it, with nothing behind it. -/
theorem writtenRead (style : Style) (j : Json) :
    read (write style 0 j) = (kept nestingLimit j, true) := by
  have whole := @valueRead style j 0 (2 * (write style 0 j).length + 2) nestingLimit []
    (by omega) stopsNil
  rw [List.append_nil] at whole
  rw [read, whole]
  rfl

end PassTuner.Json
