import BasiliskServer.Proofs.Json.Scalar

/-!
# Reading back what was written

A value without fractional numbers and with distinct field names (`Value.Plain`) is read back from
its text as it was, order of fields included, unless a limit of the reader stands against it.
`Value.excess?` says which limit that is. The main statement is `parse_ofList_write`, an
equation for both cases, for texts with all characters as they are (`parse_render`) and for texts in
ASCII (`parse_renderAscii`).
-/

namespace BasiliskServer.Json

/-! ## Plain values -/

/-- Values made of null, truth values, integers, texts, lists and objects with distinct names. -/
inductive Value.Plain : Value → Prop
  | null : Plain .null
  | bool (b : Bool) : Plain (.bool b)
  | int (n : Int) : Plain (.int n)
  | string (s : String) : Plain (.string s)
  | array (items : List Value) : (∀ value ∈ items, Plain value) → Plain (.array items)
  | object (fields : Fields) : (fields.map Prod.fst).Nodup →
      (∀ field ∈ fields, Plain field.2) → Plain (.object fields)

namespace Value

@[simp] theorem plain_null : Value.null.Plain := .null

@[simp] theorem plain_bool (b : Bool) : (Value.bool b).Plain := .bool b

@[simp] theorem plain_int (n : Int) : (Value.int n).Plain := .int n

@[simp] theorem plain_string (s : String) : (Value.string s).Plain := .string s

@[simp] theorem plain_array {items : List Value} :
    (Value.array items).Plain ↔ ∀ value ∈ items, value.Plain :=
  ⟨fun | .array _ h => h, .array items⟩

@[simp] theorem plain_object {fields : Fields} :
    (Value.object fields).Plain ↔
      (fields.map Prod.fst).Nodup ∧ ∀ field ∈ fields, field.2.Plain :=
  ⟨fun | .object _ hnames h => ⟨hnames, h⟩, fun ⟨hnames, h⟩ => .object fields hnames h⟩

@[simp] theorem plain_strings (texts : List String) : (Value.strings texts).Plain := by
  simp [strings]

@[simp] theorem strings_inj {texts more : List String} : strings texts = strings more ↔ texts = more := by
  rw [strings, strings, Value.array.injEq]
  exact List.map_inj_right fun _ _ => Value.string.inj

end Value

theorem itemsExcess?_eq_none_iff {depth : Nat} {items : List Value} :
    itemsExcess? depth items = none ↔ ∀ value ∈ items, value.excess? depth = none := by
  induction items with
  | nil => simp [itemsExcess?]
  | cons value items ih => rw [itemsExcess?, Option.or_eq_none_iff, ih, List.forall_mem_cons]

theorem fieldsExcess?_eq_none_iff {depth : Nat} {fields : Fields} :
    fieldsExcess? depth fields = none ↔ ∀ field ∈ fields, field.2.excess? depth = none := by
  induction fields with
  | nil => simp [fieldsExcess?]
  | cons field fields ih => rw [fieldsExcess?, Option.or_eq_none_iff, ih, List.forall_mem_cons]

@[simp] theorem Value.excess?_strings (depth : Nat) (texts : List String) :
    (Value.strings texts).excess? (depth + 1) = none := by
  rw [strings, Value.excess?, if_neg (Nat.succ_ne_zero depth), itemsExcess?_eq_none_iff,
    List.forall_mem_map]
  exact fun _ _ => rfl

theorem itemsAreWhole_iff {items : List Value} :
    itemsAreWhole items = true ↔ ∀ value ∈ items, value.isWhole = true := by
  induction items with
  | nil => simp [itemsAreWhole]
  | cons value items ih => rw [itemsAreWhole, Bool.and_eq_true, ih, List.forall_mem_cons]

theorem fieldsAreWhole_iff {fields : Fields} :
    fieldsAreWhole fields = true ↔ ∀ field ∈ fields, field.2.isWhole = true := by
  induction fields with
  | nil => simp [fieldsAreWhole]
  | cons field fields ih => rw [fieldsAreWhole, Bool.and_eq_true, ih, List.forall_mem_cons]

/-- The texts in a plain value are made of characters. -/
theorem Value.Plain.isWhole {value : Value} (h : value.Plain) : value.isWhole = true := by
  induction h with
  | null | bool | int | string => rfl
  | array items _ ih =>
    rw [Value.isWhole]
    exact itemsAreWhole_iff.2 ih
  | object fields _ _ ih =>
    rw [Value.isWhole]
    exact fieldsAreWhole_iff.2 ih

/-- With more levels left nothing more is too much. -/
theorem Value.Plain.excess?_mono {value : Value} (h : value.Plain) {depth more : Nat}
    (hle : depth ≤ more) (hnone : value.excess? depth = none) : value.excess? more = none := by
  induction h generalizing depth more with
  | null | bool | string => rfl
  | int n => exact hnone
  | array items _ ih =>
    rw [Value.excess?] at hnone ⊢
    split at hnone
    · cases hnone
    · rw [if_neg (by omega), itemsExcess?_eq_none_iff] at *
      exact fun value hmem => ih value hmem (Nat.sub_le_sub_right hle 1) (hnone value hmem)
  | object fields _ _ ih =>
    rw [Value.excess?] at hnone ⊢
    split at hnone
    · cases hnone
    · rw [if_neg (by omega), fieldsExcess?_eq_none_iff] at *
      exact fun field hmem => ih field hmem (Nat.sub_le_sub_right hle 1) (hnone field hmem)

/-- Lists within lists, `n` of them within the outermost. -/
def nestedLists : Nat → Value
  | 0 => .array []
  | n + 1 => .array [nestedLists n]

theorem plain_nestedLists (n : Nat) : (nestedLists n).Plain := by
  induction n with
  | zero => simp [nestedLists]
  | succ n ih => simpa [nestedLists] using ih

theorem excess?_nestedLists {depth n : Nat} (h : depth ≤ n) :
    (nestedLists n).excess? depth = some .nesting := by
  induction n generalizing depth with
  | zero =>
    obtain rfl := Nat.le_zero.mp h
    rfl
  | succ n ih =>
    cases depth with
    | zero => rfl
    | succ depth =>
      simp [nestedLists, Value.excess?, itemsExcess?, ih (Nat.le_of_succ_le_succ h)]

/-- The outcome of a reader that reads `a` unless there is too much of something. -/
def verdict {α : Type} (excess : Option Excess) (a : α) : Except Fault α :=
  match excess with
  | none => .ok a
  | some what => .error (.excess what)

/-! ## How written values start -/

variable {ascii : Bool}

/-- Text that starts like a value: not with space, a closing bracket or a byte order mark. -/
def Starts (cs : List Char) : Prop :=
  ∃ c rest, cs = c :: rest ∧ isSpace c = false ∧ c ≠ ']' ∧ c ≠ Char.ofNat 0xFEFF

theorem Starts.append {cs : List Char} (h : Starts cs) (more : List Char) : Starts (cs ++ more) := by
  obtain ⟨c, rest, rfl, hc⟩ := h
  exact ⟨c, rest ++ more, rfl, hc⟩

theorem Starts.skipSpace {cs : List Char} (h : Starts cs) : skipSpace cs = cs := by
  obtain ⟨c, rest, rfl, hc, -⟩ := h
  simp [Json.skipSpace, hc]

theorem starts_of_isDecimal {c : Char} (rest : List Char) (h : isDecimal c = true) :
    Starts (c :: rest) := by
  refine ⟨c, rest, rfl, ?_, ?_, ?_⟩
  · have hne {d : Char} (hd : isDecimal d = false) : c ≠ d := by
      rintro rfl
      simp [hd] at h
    simp [isSpace, hne (d := ' ') rfl, hne (d := '\t') rfl, hne (d := '\n') rfl,
      hne (d := '\r') rfl]
  · rintro rfl
    exact absurd h (by decide)
  · rintro rfl
    exact absurd h (by decide)

/-- A written integer starts with a minus sign or a digit. -/
theorem exists_writeInt_eq_cons (n : Int) :
    ∃ c cs, writeInt n = c :: cs ∧ (c = '-' ∨ isDecimal c = true) := by
  rw [writeInt]
  split
  · exact ⟨'-', _, rfl, .inl rfl⟩
  · obtain ⟨c, cs, hcs⟩ :=
      List.exists_cons_of_ne_nil (Nat.toDigits_ne_nil (n := n.natAbs) (b := 10))
    exact ⟨c, cs, hcs, .inr (isDecimal_of_mem_toDigits (n := n.natAbs) (by simp [hcs]))⟩

theorem starts_writeInt (n : Int) : Starts (writeInt n) := by
  obtain ⟨c, cs, hcs, rfl | hc⟩ := exists_writeInt_eq_cons n
  · exact ⟨'-', cs, hcs, by decide⟩
  · exact hcs ▸ starts_of_isDecimal cs hc

theorem starts_write {value : Value} (h : value.Plain) : Starts (write ascii value) := by
  cases h with
  | null => exact ⟨'n', _, rfl, by decide⟩
  | bool b => cases b <;> exact ⟨_, _, rfl, by decide⟩
  | int n => simpa [write, writeScalar] using starts_writeInt n
  | string s => exact ⟨'"', _, by rw [write, writeScalar, writeText] <;> simp, by decide⟩
  | array items _ => exact ⟨'[', _, by rw [write], by decide⟩
  | object fields _ _ => exact ⟨'{', _, by rw [write], by decide⟩

/-! ## One level of reading -/

/-- Characters that follow each other make a text. -/
theorem Value.ofCodePoints_map_char (cs : List Char) :
    Value.ofCodePoints (cs.map .char) = .string (String.ofList cs) := by
  have hall : (cs.map CodePoint.char).mapM CodePoint.char? = some cs := by
    induction cs with
    | nil => rfl
    | cons c cs ih => rw [List.map_cons, List.mapM_cons, ih, CodePoint.char?]; rfl
  rw [ofCodePoints, hall]

theorem readValue_text (fuel depth : Nat) (s : String) (rest : List Char) :
    readValue (fuel + 1) depth (writeText ascii s ++ rest) = .ok (.string s, rest) := by
  simp only [writeText, List.cons_append, List.append_assoc, List.nil_append, readValue,
    readText_writeText]
  simp [bind, Except.bind, pure, Except.pure, Value.ofCodePoints_map_char]

/-- An integer is not mistaken for a text, a list or an object. -/
theorem readValue_int {fuel depth : Nat} (n : Int) (rest : List Char) :
    readValue (fuel + 1) depth (writeInt n ++ rest) = readScalar (writeInt n ++ rest) := by
  obtain ⟨c, cs, hcs, hc⟩ := exists_writeInt_eq_cons n
  have hne (d : Char) (more : List Char) (hminus : d ≠ '-') (hdigit : isDecimal d = false) :
      c :: (cs ++ rest) ≠ d :: more := by
    intro heq
    obtain rfl := (List.cons.inj heq).1
    simp [hminus, hdigit] at hc
  rw [hcs, List.cons_append, readValue]
  · exact fun more => hne '"' more (by decide) rfl
  · exact fun more => hne '{' more (by decide) rfl
  · exact fun more => hne '[' more (by decide) rfl

/-- A list that is not empty is read item by item, one level down. -/
theorem readValue_array {fuel depth : Nat} {cs : List Char} (h : Starts cs) :
    readValue (fuel + 1) (depth + 1) ('[' :: cs) =
      (readItems fuel depth cs).map fun (items, rest) => (.array items, rest) := by
  simp only [readValue.eq_def, h.skipSpace]
  obtain ⟨c, rest, rfl, -, hc, -⟩ := h
  split
  · simp_all
  · simp_all
  · rename_i heq _
    obtain rfl : depth = _ := Nat.succ.inj heq
    cases readItems fuel depth (c :: rest) <;> rfl

theorem readValue_object {fuel depth : Nat} {cs : List Char} :
    readValue (fuel + 1) (depth + 1) ('{' :: '"' :: cs) =
      (readFields fuel depth [] ('"' :: cs)).map fun (fields, rest) => (.object fields, rest) := by
  simp only [readValue.eq_def, show skipSpace ('"' :: cs) = '"' :: cs from rfl]
  split
  · simp_all
  · simp_all
  · rename_i heq _
    obtain rfl : depth = _ := Nat.succ.inj heq
    cases readFields fuel depth [] ('"' :: cs) <;> rfl

theorem Starts.skipSpace_cons {cs : List Char} (h : Starts cs) : Json.skipSpace (' ' :: cs) = cs :=
  h.skipSpace

theorem readItems_last {fuel depth : Nat} {cs rest : List Char} {value : Value}
    {excess : Option Excess}
    (h : readValue fuel depth cs = verdict excess (value, ']' :: rest)) :
    readItems (fuel + 1) depth cs = verdict excess ([value], rest) := by
  rw [readItems, h]
  cases excess <;> rfl

theorem readItems_more {fuel depth : Nat} {cs more rest : List Char} {value : Value}
    {values : List Value} {excess excess' : Option Excess} (hmore : Starts more)
    (h : readValue fuel depth cs = verdict excess (value, ',' :: ' ' :: more))
    (h' : readItems fuel depth more = verdict excess' (values, rest)) :
    readItems (fuel + 1) depth cs = verdict (excess.or excess') (value :: values, rest) := by
  have hcomma : skipSpace (',' :: ' ' :: more) = ',' :: ' ' :: more := rfl
  rw [readItems, h]
  cases excess with
  | some what => rfl
  | none =>
    simp only [verdict, bind, Except.bind, hcomma, hmore.skipSpace_cons, h']
    cases excess' <;> rfl

/-- Reading a field: its name and the colon are taken off in front of its value. -/
theorem readFields_name {fuel depth : Nat} {seen : Fields} {name : String} {cs after : List Char}
    {value : Value} {excess : Option Excess} (hstart : Starts cs)
    (h : readValue fuel depth cs = verdict excess (value, after)) :
    readFields (fuel + 1) depth seen (writeText ascii name ++ ':' :: ' ' :: cs) =
      (verdict excess (skipSpace after)).bind fun
        | '}' :: rest => .ok (seen.put name value, rest)
        | ',' :: rest => readFields fuel depth (seen.put name value) (skipSpace rest)
        | rest => .error (.wrong .comma rest) := by
  have hcolon : skipSpace (':' :: ' ' :: cs) = ':' :: ' ' :: cs := rfl
  have hshown : (name.toList.map CodePoint.char).map CodePoint.shown = name.toList := by
    rw [List.map_map]
    exact List.map_id _
  simp only [writeText, List.cons_append, List.append_assoc, List.nil_append, readFields,
    readText_writeText, bind, Except.bind, hcolon, hstart.skipSpace_cons, h, hshown,
    String.ofList_toList]
  cases excess <;> rfl

theorem readFields_last {fuel depth : Nat} {seen : Fields} {name : String} {cs rest : List Char}
    {value : Value} {excess : Option Excess} (hstart : Starts cs)
    (h : readValue fuel depth cs = verdict excess (value, '}' :: rest)) :
    readFields (fuel + 1) depth seen (writeText ascii name ++ ':' :: ' ' :: cs) =
      verdict excess (seen.put name value, rest) := by
  rw [readFields_name hstart h]
  cases excess <;> rfl

theorem readFields_more {fuel depth : Nat} {seen fields : Fields} {name : String}
    {cs more rest : List Char} {value : Value} {excess excess' : Option Excess}
    (hstart : Starts cs) (hmore : Starts more)
    (h : readValue fuel depth cs = verdict excess (value, ',' :: ' ' :: more))
    (h' : readFields fuel depth (seen.put name value) more = verdict excess' (fields, rest)) :
    readFields (fuel + 1) depth seen (writeText ascii name ++ ':' :: ' ' :: cs) =
      verdict (excess.or excess') (fields, rest) := by
  have hcomma : skipSpace (',' :: ' ' :: more) = ',' :: ' ' :: more := rfl
  rw [readFields_name hstart h, hcomma]
  cases excess with
  | some what => rfl
  | none => simp only [verdict, Except.bind, hmore.skipSpace_cons, h', Option.none_or]

/-! ## Whole values -/

/-- A value is read back from its text, up to the limits of the reader. The length of the text is
fuel enough. -/
def ReadsBack (ascii : Bool) (value : Value) : Prop :=
  ∀ (fuel depth : Nat) (rest : List Char), Ends rest → (write ascii value).length ≤ fuel →
    readValue fuel depth (write ascii value ++ rest) =
      verdict (value.excess? depth) (value, rest)

/-- A field with a new name goes to the end. -/
theorem Fields.put_of_notMem {fields : Fields} {name : String} (value : Value)
    (h : name ∉ fields.map Prod.fst) : fields.put name value = fields ++ [(name, value)] := by
  induction fields with
  | nil => rfl
  | cons field fields ih =>
    rw [List.map_cons, List.mem_cons, not_or] at h
    rw [put, if_neg (Ne.symm h.1), ih h.2, List.cons_append]

theorem starts_writeItems {value : Value} (rest : List Value) (h : value.Plain) :
    Starts (writeItems ascii (value :: rest)) := by
  cases rest with
  | nil => simpa [writeItems] using starts_write h
  | cons next rest => simpa [writeItems] using (starts_write h).append _

/-- Written items are read back one by one, up to the first that has too much of something. -/
theorem readItems_writeItems {items : List Value} (hne : items ≠ [])
    (hplain : ∀ value ∈ items, value.Plain) (hread : ∀ value ∈ items, ReadsBack ascii value)
    (fuel depth : Nat) (rest : List Char) (hfuel : (writeItems ascii items).length < fuel) :
    readItems fuel depth (writeItems ascii items ++ ']' :: rest) =
      verdict (itemsExcess? depth items) (items, rest) := by
  induction items generalizing fuel with
  | nil => exact absurd rfl hne
  | cons value items ih =>
    have hvalue := hread value List.mem_cons_self
    -- The fuel covers the first value and, one step later, what is left of the text.
    obtain ⟨fuel, rfl⟩ : ∃ n, fuel = n + 1 := Nat.exists_eq_add_one.mpr (Nat.zero_lt_of_lt hfuel)
    cases items with
    | nil =>
      rw [writeItems] at hfuel ⊢
      rw [itemsExcess?, itemsExcess?, Option.or_none]
      exact readItems_last (hvalue fuel depth _ (ends_cons (by decide)) (by omega))
    | cons next items =>
      have hwrite : writeItems ascii (value :: next :: items) =
          write ascii value ++ (',' :: ' ' :: writeItems ascii (next :: items)) := by
        rw [writeItems]
        simp
      rw [hwrite] at hfuel ⊢
      simp only [List.length_append, List.length_cons] at hfuel
      rw [itemsExcess?, List.append_assoc]
      refine readItems_more ((starts_writeItems items (hplain next (by simp))).append (']' :: rest))
        (hvalue fuel depth _ (ends_cons (by decide)) (by omega)) ?_
      exact ih (by simp) (fun v hv => hplain v (List.mem_cons_of_mem _ hv))
        (fun v hv => hread v (List.mem_cons_of_mem _ hv)) fuel (by omega)

/-- Written fields start with the quote of the first name. -/
theorem exists_writeFields_eq_cons (field : String × Value) (rest : Fields) :
    ∃ cs, writeFields ascii (field :: rest) = '"' :: cs := by
  cases rest with
  | nil => exact ⟨_, by rw [writeFields, writeText, List.cons_append]⟩
  | cons next rest => exact ⟨_, by rw [writeFields, writeText, List.cons_append]; simp⟩

theorem starts_writeFields (field : String × Value) (rest : Fields) :
    Starts (writeFields ascii (field :: rest)) := by
  obtain ⟨cs, hcs⟩ := exists_writeFields_eq_cons field rest
  exact ⟨'"', cs, hcs, by decide⟩

/-- Written fields are read back one by one, after those read before them. -/
theorem readFields_writeFields {fields : Fields} (hne : fields ≠ [])
    (hplain : ∀ field ∈ fields, field.2.Plain) (hread : ∀ field ∈ fields, ReadsBack ascii field.2)
    (fuel depth : Nat) (seen : Fields) (rest : List Char)
    (hnames : ((seen ++ fields).map Prod.fst).Nodup)
    (hfuel : (writeFields ascii fields).length < fuel) :
    readFields fuel depth seen (writeFields ascii fields ++ '}' :: rest) =
      verdict (fieldsExcess? depth fields) (seen ++ fields, rest) := by
  induction fields generalizing fuel seen with
  | nil => exact absurd rfl hne
  | cons field fields ih =>
    obtain ⟨name, value⟩ := field
    have hvalue : ReadsBack ascii value := hread (name, value) List.mem_cons_self
    have hstart : Starts (write ascii value) := starts_write (hplain _ List.mem_cons_self)
    obtain ⟨fuel, rfl⟩ : ∃ n, fuel = n + 1 := Nat.exists_eq_add_one.mpr (Nat.zero_lt_of_lt hfuel)
    -- The name is new, so the field goes to the end of those read before.
    have hnew : name ∉ seen.map Prod.fst := by
      rw [List.map_append, List.nodup_append] at hnames
      exact fun hmem => hnames.2.2 name hmem name (by simp) rfl
    have hput := Fields.put_of_notMem value hnew
    cases fields with
    | nil =>
      rw [writeFields] at hfuel ⊢
      simp only [List.length_append, List.length_cons] at hfuel
      rw [fieldsExcess?, fieldsExcess?, Option.or_none, ← hput, List.append_assoc]
      exact readFields_last (hstart.append _)
        (hvalue fuel depth _ (ends_cons (by decide)) (by omega))
    | cons next fields =>
      have hwrite : writeFields ascii ((name, value) :: next :: fields) =
          writeText ascii name ++ (':' :: ' ' :: (write ascii value ++
            (',' :: ' ' :: writeFields ascii (next :: fields)))) := by
        rw [writeFields]
        simp
      rw [hwrite] at hfuel ⊢
      simp only [List.length_append, List.length_cons] at hfuel
      rw [fieldsExcess?, List.append_assoc, List.cons_append, List.cons_append, List.append_assoc]
      refine readFields_more (hstart.append _) ((starts_writeFields next fields).append ('}' :: rest))
        (hvalue fuel depth _ (ends_cons (by decide)) (by omega)) ?_
      rw [hput]
      have hrest := ih (by simp) (fun f hf => hplain f (List.mem_cons_of_mem _ hf))
        (fun f hf => hread f (List.mem_cons_of_mem _ hf)) fuel (seen ++ [(name, value)])
        (by simpa using hnames) (by omega)
      simpa using hrest

/-- The outcome on a part of a value, carried over to the value. -/
theorem map_verdict {α β : Type} (excess : Option Excess) (a : α) (f : α → β) :
    (verdict excess a).map f = verdict excess (f a) := by
  cases excess <;> rfl

theorem readsBack_word {value : Value} (word : List Char) (hwrite : write ascii value = word)
    (hexcess : ∀ depth, value.excess? depth = none)
    (hread : ∀ fuel depth rest, readValue (fuel + 1) depth (word ++ rest) = .ok (value, rest))
    (hne : word ≠ []) : ReadsBack ascii value := by
  intro fuel depth rest _ hfuel
  rw [hwrite] at hfuel ⊢
  obtain ⟨fuel, rfl⟩ : ∃ n, fuel = n + 1 :=
    Nat.exists_eq_add_one.mpr (Nat.lt_of_lt_of_le (List.length_pos_iff.mpr hne) hfuel)
  rw [hread, hexcess, verdict]

theorem readsBack_int (n : Int) : ReadsBack ascii (.int n) := by
  intro fuel depth rest hrest hfuel
  have hwrite : write ascii (.int n) = writeInt n := by rw [write, writeScalar] <;> simp
  rw [hwrite] at hfuel ⊢
  obtain ⟨c, cs, hcs, -⟩ := exists_writeInt_eq_cons n
  obtain ⟨fuel, rfl⟩ : ∃ n, fuel = n + 1 :=
    Nat.exists_eq_add_one.mpr (Nat.lt_of_lt_of_le (by simp [hcs]) hfuel)
  rw [readValue_int, readScalar_writeInt n hrest, Value.excess?, digitsExcess?]
  split <;> rfl

theorem readsBack_array {items : List Value} (hplain : ∀ value ∈ items, value.Plain)
    (hread : ∀ value ∈ items, ReadsBack ascii value) : ReadsBack ascii (.array items) := by
  intro fuel depth rest _ hfuel
  rw [write] at hfuel ⊢
  obtain ⟨fuel, rfl⟩ : ∃ n, fuel = n + 1 :=
    Nat.exists_eq_add_one.mpr (Nat.lt_of_lt_of_le (by simp) hfuel)
  simp only [List.length_cons, List.length_append, List.length_nil] at hfuel
  rw [List.cons_append, List.append_assoc, Value.excess?]
  -- At the last level the bracket alone is too much, whatever the list holds.
  cases depth with
  | zero => rfl
  | succ depth =>
    rw [if_neg (Nat.succ_ne_zero depth), Nat.add_sub_cancel]
    cases items with
    | nil => rfl
    | cons value items =>
      have hstart : Starts (writeItems ascii (value :: items)) :=
        starts_writeItems items (hplain value List.mem_cons_self)
      rw [readValue_array (hstart.append _), List.singleton_append,
        readItems_writeItems (by simp) hplain hread fuel depth rest (by omega), map_verdict]

theorem readsBack_object {fields : Fields} (hnames : (fields.map Prod.fst).Nodup)
    (hplain : ∀ field ∈ fields, field.2.Plain) (hread : ∀ field ∈ fields, ReadsBack ascii field.2) :
    ReadsBack ascii (.object fields) := by
  intro fuel depth rest _ hfuel
  rw [write] at hfuel ⊢
  obtain ⟨fuel, rfl⟩ : ∃ n, fuel = n + 1 :=
    Nat.exists_eq_add_one.mpr (Nat.lt_of_lt_of_le (by simp) hfuel)
  simp only [List.length_cons, List.length_append, List.length_nil] at hfuel
  rw [List.cons_append, List.append_assoc, Value.excess?]
  cases depth with
  | zero => rfl
  | succ depth =>
    rw [if_neg (Nat.succ_ne_zero depth), Nat.add_sub_cancel]
    cases fields with
    | nil => rfl
    | cons field fields =>
      have hall := readFields_writeFields (by simp) hplain hread fuel depth [] rest
        (by simpa using hnames) (by omega)
      obtain ⟨cs, hcs⟩ := exists_writeFields_eq_cons field fields
      rw [List.singleton_append]
      rw [hcs, List.cons_append] at hall ⊢
      rw [readValue_object, hall, map_verdict, List.nil_append]

/-- Every plain value is read back. -/
theorem Value.Plain.readsBack {value : Value} (h : value.Plain) : ReadsBack ascii value := by
  induction h with
  | null =>
    exact readsBack_word "null".toList rfl (fun _ => rfl) (fun _ _ _ => rfl) (by decide)
  | bool b =>
    cases b with
    | true =>
      exact readsBack_word "true".toList rfl (fun _ => rfl) (fun _ _ _ => rfl)
        (by decide)
    | false =>
      exact readsBack_word "false".toList rfl (fun _ => rfl) (fun _ _ _ => rfl)
        (by decide)
  | int n => exact readsBack_int n
  | string s =>
    exact readsBack_word (writeText ascii s) rfl (fun _ => rfl)
      (fun fuel depth rest => readValue_text fuel depth s rest) (by simp [writeText])
  | array items hplain ih => exact readsBack_array hplain ih
  | object fields hnames hplain ih => exact readsBack_object hnames hplain ih

/-- Reading the text of a plain value gives the value back, unless it has too much of something. -/
theorem parse_ofList_write (ascii : Bool) (nesting : Nat) {value : Value} (h : value.Plain) :
    parse nesting (String.ofList (write ascii value)) =
      match value.excess? nesting with
      | none => .ok value
      | some what => .error (.excess what) := by
  -- The text starts with the value itself: no space to skip and no byte order mark.
  have hstarts : Starts (write ascii value) := starts_write h
  have hback : ReadsBack ascii value := h.readsBack
  have hread := hback (2 * (write ascii value).length + 2) nesting [] ends_nil (by omega)
  rw [List.append_nil] at hread
  have hstart : skipSpace (write ascii value) = write ascii value := hstarts.skipSpace
  obtain ⟨c, cs, hcs, -, -, hmark⟩ := hstarts
  simp only [parse, String.toList_ofList, readAll, hstart, hread]
  rw [if_neg (by simpa [hcs] using hmark)]
  cases value.excess? nesting <;> rfl

theorem parse_render (nesting : Nat) {value : Value} (h : value.Plain) :
    parse nesting (render value) =
      match value.excess? nesting with
      | none => .ok value
      | some what => .error (.excess what) :=
  parse_ofList_write false nesting h

theorem parse_renderAscii {nesting : Nat} {value : Value} (h : value.Plain)
    (hfits : value.excess? nesting = none) : parse nesting (renderAscii value) = .ok value := by
  rw [renderAscii, parse_ofList_write true nesting h, hfits]

end BasiliskServer.Json
