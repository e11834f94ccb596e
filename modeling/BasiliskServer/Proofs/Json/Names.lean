import BasiliskServer.Json.Parser

/-!
# Names in objects

What an object holds under a name after a field was written (`Fields.get?_put`) and after one object
was laid over another (`Fields.get?_overlay`). The second needs that the upper object has each name
once. Values all of whose objects do are unambiguous (`Value.Unambiguous`), and every value that is
read from a text is (`parse_unambiguous`): a name that is written again keeps its place and takes the
later value.
-/

namespace BasiliskServer.Json

namespace Fields

/-! ## Looking a name up -/

@[simp] theorem get?_nil (name : String) : get? [] name = none := rfl

@[simp] theorem get?_cons (key name : String) (value : Value) (rest : Fields) :
    get? ((key, value) :: rest) name = if name = key then some value else get? rest name := by
  by_cases h : name = key
  · rw [if_pos h, get?, List.lookup_cons, h, beq_self_eq_true]
  · have hbeq : (name == key) = false := by simpa using h
    rw [if_neg h, get?, List.lookup_cons, hbeq, get?]

theorem mem_of_get?_eq_some {fields : Fields} {name : String} {value : Value}
    (h : fields.get? name = some value) : (name, value) ∈ fields := by
  induction fields with
  | nil => simp at h
  | cons field rest ih =>
    obtain ⟨key, old⟩ := field
    rw [get?_cons] at h
    split at h
    next heq =>
      obtain rfl : old = value := by simpa using h
      simp [heq]
    next => exact List.mem_cons_of_mem _ (ih h)

theorem get?_eq_none_iff {fields : Fields} {name : String} :
    fields.get? name = none ↔ name ∉ fields.map Prod.fst := by
  induction fields with
  | nil => simp
  | cons field rest ih =>
    obtain ⟨key, old⟩ := field
    by_cases h : name = key <;> simp [h, ih]

theorem get?_append (front back : Fields) (name : String) :
    get? (front ++ back) name = (front.get? name).or (back.get? name) := by
  induction front with
  | nil => simp
  | cons field rest ih =>
    obtain ⟨key, old⟩ := field
    by_cases h : name = key <;> simp [h, ih]

/-! ## Writing fields -/

theorem get?_put (fields : Fields) (key name : String) (value : Value) :
    (fields.put key value).get? name = if name = key then some value else fields.get? name := by
  induction fields with
  | nil => simp [put]
  | cons field rest ih =>
    obtain ⟨first, old⟩ := field
    by_cases hfirst : first = key
    · subst hfirst
      by_cases h : name = first <;> simp [put, h]
    · rw [put, if_neg hfirst, get?_cons, get?_cons, ih]
      by_cases h : name = first
      · simp [h, hfirst]
      · simp [h]

@[simp] theorem get?_put_self (fields : Fields) (name : String) (value : Value) :
    (fields.put name value).get? name = some value := by
  rw [get?_put, if_pos rfl]

theorem get?_put_of_ne {fields : Fields} {key name : String} {value : Value} (h : name ≠ key) :
    (fields.put key value).get? name = fields.get? name := by
  rw [get?_put, if_neg h]

/-- Writing a field adds no name but its own. -/
theorem mem_names_put {fields : Fields} {key name : String} {value : Value} :
    name ∈ (fields.put key value).map Prod.fst ↔ name = key ∨ name ∈ fields.map Prod.fst := by
  rw [← Decidable.not_iff_not, ← get?_eq_none_iff, get?_put, not_or, ← get?_eq_none_iff]
  by_cases h : name = key <;> simp [h]

theorem nodup_put {fields : Fields} (h : (fields.map Prod.fst).Nodup) (key : String)
    (value : Value) : ((fields.put key value).map Prod.fst).Nodup := by
  induction fields with
  | nil => simp [put]
  | cons field rest ih =>
    obtain ⟨first, old⟩ := field
    rw [List.map_cons, List.nodup_cons] at h
    rw [put]
    split
    next => rwa [List.map_cons, List.nodup_cons]
    next hne =>
      rw [List.map_cons, List.nodup_cons]
      exact ⟨fun hmem => (mem_names_put.1 hmem).elim hne h.1, ih h.2⟩

theorem mem_put {fields : Fields} {key : String} {value : Value} {field : String × Value}
    (h : field ∈ fields.put key value) : field = (key, value) ∨ field ∈ fields := by
  induction fields with
  | nil => exact .inl (by simpa [put] using h)
  | cons first rest ih =>
    obtain ⟨name, old⟩ := first
    rw [put] at h
    split at h
    next heq =>
      subst heq
      exact (List.mem_cons.1 h).imp_right (List.mem_cons_of_mem _)
    next =>
      rcases List.mem_cons.1 h with h | h
      · exact .inr (List.mem_cons.2 (.inl h))
      · exact (ih h).imp_right (List.mem_cons_of_mem _)

/-- An object laid over another one decides what its own names stand for. -/
theorem get?_overlay (lower : Fields) {upper : Fields} (h : (upper.map Prod.fst).Nodup)
    (name : String) : (overlay lower upper).get? name = (upper.get? name).or (lower.get? name) := by
  induction upper generalizing lower with
  | nil => simp [overlay]
  | cons field rest ih =>
    obtain ⟨key, value⟩ := field
    rw [List.map_cons, List.nodup_cons] at h
    have hrest : overlay lower ((key, value) :: rest) = overlay (lower.put key value) rest := rfl
    rw [hrest, ih _ h.2, get?_put, get?_cons]
    by_cases hname : name = key
    · -- The name comes first, so the rest does not hold it again.
      subst hname
      simp [get?_eq_none_iff.2 h.1]
    · simp [hname]

end Fields

/-! ## Unambiguous values -/

/-- Every object in a value has each of its names once. -/
inductive Value.Unambiguous : Value → Prop
  | null : Unambiguous .null
  | bool (b : Bool) : Unambiguous (.bool b)
  | int (n : Int) : Unambiguous (.int n)
  | float (x : Decimal.Double) : Unambiguous (.float x)
  | string (s : String) : Unambiguous (.string s)
  | broken (codes : List CodePoint) : Unambiguous (.broken codes)
  | array (items : List Value) : (∀ value ∈ items, Unambiguous value) → Unambiguous (.array items)
  | object (fields : Fields) : (fields.map Prod.fst).Nodup →
      (∀ field ∈ fields, Unambiguous field.2) → Unambiguous (.object fields)

namespace Value

@[simp] theorem unambiguous_null : Value.null.Unambiguous := .null

@[simp] theorem unambiguous_bool (b : Bool) : (Value.bool b).Unambiguous := .bool b

@[simp] theorem unambiguous_int (n : Int) : (Value.int n).Unambiguous := .int n

@[simp] theorem unambiguous_float (x : Decimal.Double) : (Value.float x).Unambiguous := .float x

@[simp] theorem unambiguous_string (s : String) : (Value.string s).Unambiguous := .string s

theorem unambiguous_ofCodePoints (codes : List CodePoint) : (ofCodePoints codes).Unambiguous := by
  unfold ofCodePoints
  split
  · exact .string _
  · exact .broken codes

@[simp] theorem unambiguous_array {items : List Value} :
    (Value.array items).Unambiguous ↔ ∀ value ∈ items, value.Unambiguous :=
  ⟨fun | .array _ h => h, .array items⟩

@[simp] theorem unambiguous_object {fields : Fields} :
    (Value.object fields).Unambiguous ↔
      (fields.map Prod.fst).Nodup ∧ ∀ field ∈ fields, field.2.Unambiguous :=
  ⟨fun | .object _ hnames h => ⟨hnames, h⟩, fun ⟨hnames, h⟩ => .object fields hnames h⟩

@[simp] theorem unambiguous_strings (texts : List String) : (Value.strings texts).Unambiguous := by
  simp [strings]

/-- What an unambiguous object holds is unambiguous. -/
theorem Unambiguous.get? {fields : Fields} (h : (Value.object fields).Unambiguous) {name : String}
    {value : Value} (hget : fields.get? name = some value) : value.Unambiguous :=
  (unambiguous_object.1 h).2 _ (Fields.mem_of_get?_eq_some hget)

/-- Writing an unambiguous value into an unambiguous object leaves it so. -/
theorem Unambiguous.put {fields : Fields} (h : (Value.object fields).Unambiguous) (name : String)
    {value : Value} (hvalue : value.Unambiguous) :
    (Value.object (fields.put name value)).Unambiguous := by
  rw [unambiguous_object] at h ⊢
  refine ⟨Fields.nodup_put h.1 name value, fun field hmem => ?_⟩
  rcases Fields.mem_put hmem with rfl | hmem
  · exact hvalue
  · exact h.2 field hmem

end Value

/-! ## Objects put together from parts -/

/-- No field at all, or one field with this name and an unambiguous value. -/
def Fields.AtMost (name : String) (fields : Fields) : Prop :=
  fields = [] ∨ ∃ value : Value, value.Unambiguous ∧ fields = [(name, value)]

theorem Fields.AtMost.get?_of_ne {name other : String} {fields : Fields} (h : AtMost name fields)
    (hne : other ≠ name) : fields.get? other = none := by
  rcases h with rfl | ⟨value, -, rfl⟩ <;> simp [hne]

/-- Parts with at most one field each, under different names, make an unambiguous object. -/
theorem Value.unambiguous_flatMap (parts : List (String × Fields))
    (hnames : (parts.map Prod.fst).Nodup) (h : ∀ part ∈ parts, Fields.AtMost part.1 part.2) :
    (Value.object (parts.flatMap Prod.snd)).Unambiguous := by
  have hsub : ((parts.flatMap Prod.snd).map Prod.fst).Sublist (parts.map Prod.fst) := by
    clear hnames
    induction parts with
    | nil => exact .slnil
    | cons part rest ih =>
      have ih := ih fun other hmem => h other (by simp [hmem])
      rw [List.flatMap_cons, List.map_append, List.map_cons]
      rcases h part (by simp) with hpart | ⟨value, -, hpart⟩ <;> rw [hpart]
      · exact ih.cons _
      · exact ih.cons_cons _
  refine unambiguous_object.2 ⟨hnames.sublist hsub, fun field hmem => ?_⟩
  obtain ⟨part, hpart, hfield⟩ := List.mem_flatMap.1 hmem
  rcases h part hpart with hnone | ⟨value, hvalue, hone⟩
  · simp [hnone] at hfield
  · rw [hone, List.mem_singleton] at hfield
    rwa [hfield]

/-! ## Values that are read -/

/-- What goes on after a step gives a result only from a result of the step. -/
theorem exists_ok_of_bind {ε α β : Type} {step : Except ε α} {next : α → Except ε β} {result : β}
    (h : step >>= next = .ok result) : ∃ a, step = .ok a ∧ next a = .ok result := by
  cases step with
  | error e => cases h
  | ok a => exact ⟨a, rfl, h⟩

theorem readNumber_unambiguous {start cs rest : List Char} {negative : Bool} {value : Value}
    (h : readNumber start negative cs = .ok (value, rest)) : value.Unambiguous := by
  rw [readNumber] at h
  split at h
  next => cases h
  next =>
    dsimp only at h
    split at h
    next =>
      split at h
      next => cases h
      next => cases h; exact .int _
    next => cases h; exact .float _

theorem readNamed?_unambiguous {cs rest : List Char} {value : Value}
    (h : readNamed? cs = some (value, rest)) : value.Unambiguous := by
  obtain ⟨⟨word, named⟩, hmem, hread⟩ := List.exists_of_findSome?_eq_some h
  obtain ⟨after, -, heq⟩ := Option.map_eq_some_iff.1 hread
  cases heq
  simp only [namedValues, List.mem_cons, Prod.mk.injEq, List.not_mem_nil, or_false] at hmem
  rcases hmem with ⟨-, rfl⟩ | ⟨-, rfl⟩ | ⟨-, rfl⟩ | ⟨-, rfl⟩ | ⟨-, rfl⟩ | ⟨-, rfl⟩ <;> simp

theorem readScalar_unambiguous {cs rest : List Char} {value : Value}
    (h : readScalar cs = .ok (value, rest)) : value.Unambiguous := by
  unfold readScalar at h
  split at h
  next read hnamed =>
    cases h
    exact readNamed?_unambiguous hnamed
  next =>
    split at h
    next => exact readNumber_unambiguous h
    next => exact readNumber_unambiguous h

/-- The readers of values, of fields and of items give unambiguous values with this fuel; the reader
of fields goes on from fields that are. -/
structure ReadsUnambiguous (fuel : Nat) : Prop where
  value : ∀ {depth : Nat} {cs rest : List Char} {value : Value},
    readValue fuel depth cs = .ok (value, rest) → value.Unambiguous
  fields : ∀ {depth : Nat} {seen fields : Fields} {cs rest : List Char},
    (Value.object seen).Unambiguous → readFields fuel depth seen cs = .ok (fields, rest) →
      (Value.object fields).Unambiguous
  items : ∀ {depth : Nat} {cs rest : List Char} {items : List Value},
    readItems fuel depth cs = .ok (items, rest) → (Value.array items).Unambiguous

theorem readValue_unambiguous {fuel depth : Nat} {cs rest : List Char} {value : Value}
    (ih : ReadsUnambiguous fuel) (h : readValue (fuel + 1) depth cs = .ok (value, rest)) :
    value.Unambiguous := by
  -- One case for each way in which a value begins. Only objects have names to tell apart.
  unfold readValue at h
  split at h
  next =>
    obtain ⟨read, -, hread⟩ := exists_ok_of_bind h
    cases hread
    exact Value.unambiguous_ofCodePoints _
  next =>
    split at h
    next => cases h
    next => cases h; simp
    next =>
      obtain ⟨⟨fields, after⟩, hfields, hread⟩ := exists_ok_of_bind h
      cases hread
      exact ih.fields (by simp) hfields
  next =>
    split at h
    next => cases h
    next => cases h; simp
    next =>
      obtain ⟨⟨items, after⟩, hitems, hread⟩ := exists_ok_of_bind h
      cases hread
      exact ih.items hitems
  next => exact readScalar_unambiguous h

theorem readFields_unambiguous {fuel depth : Nat} {seen fields : Fields} {cs rest : List Char}
    (ih : ReadsUnambiguous fuel) (hseen : (Value.object seen).Unambiguous)
    (h : readFields (fuel + 1) depth seen cs = .ok (fields, rest)) :
    (Value.object fields).Unambiguous := by
  unfold readFields at h
  split at h
  next =>
    obtain ⟨⟨name, afterName⟩, -, h⟩ := exists_ok_of_bind h
    dsimp only at h
    split at h
    next =>
      obtain ⟨⟨value, afterValue⟩, hvalue, h⟩ := exists_ok_of_bind h
      have hput := hseen.put (String.ofList (name.map CodePoint.shown)) (ih.value hvalue)
      dsimp only at h
      split at h
      next => cases h; exact hput
      next => exact ih.fields hput h
      next => cases h
    next => cases h
  next => cases h

theorem readItems_unambiguous {fuel depth : Nat} {cs rest : List Char} {items : List Value}
    (ih : ReadsUnambiguous fuel) (h : readItems (fuel + 1) depth cs = .ok (items, rest)) :
    (Value.array items).Unambiguous := by
  unfold readItems at h
  obtain ⟨⟨value, afterValue⟩, hvalue, h⟩ := exists_ok_of_bind h
  have hfirst := ih.value hvalue
  dsimp only at h
  split at h
  next =>
    cases h
    simpa using hfirst
  next =>
    obtain ⟨⟨more, afterMore⟩, hmore, h⟩ := exists_ok_of_bind h
    cases h
    have hrest := Value.unambiguous_array.1 (ih.items hmore)
    exact .array _ (List.forall_mem_cons.2 ⟨hfirst, hrest⟩)
  next => cases h

theorem readsUnambiguous (fuel : Nat) : ReadsUnambiguous fuel := by
  induction fuel with
  | zero =>
    refine ⟨fun h => ?_, fun _ h => ?_, fun h => ?_⟩
    · rw [readValue] at h; cases h
    · rw [readFields] at h; cases h
    · rw [readItems] at h; cases h
  | succ fuel ih =>
    exact ⟨readValue_unambiguous ih, readFields_unambiguous ih, readItems_unambiguous ih⟩

/-- Whatever is read from a text has each name once in every object. -/
theorem parse_unambiguous {nesting : Nat} {text : String} {value : Value}
    (h : parse nesting text = .ok value) : value.Unambiguous := by
  unfold parse readAll at h
  dsimp only at h
  split at h
  next => cases h
  next =>
    split at h
    next => cases h
    next hread =>
      split at h
      next =>
        cases h
        exact (readsUnambiguous _).value hread
      next => cases h

end BasiliskServer.Json
