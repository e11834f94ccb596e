import BasiliskServer.Tasks.Scheduler

/-!
# What each operation of the scheduler does

For each operation there is one lemma that says all that it does: which promise or which task has changed
and how, and what is queued (`settle_cases`, `observe_cases`, `proceed_cases` and so on). What holds of
schedulers is derived from these. A change of one promise is an `Alters`.

The `notices` are all that is still to be caused: what is queued, what timers will cause, and what promises
will cause when they are settled. An operation adds none but the one that it is given
(`mem_notices_settle` and the lemmas like it).
-/

namespace BasiliskServer.Tasks

/-! ## Lists with one more item, or with one changed -/

section Lists

variable {α β : Type} {items more : List α} {item found : α} {number : Nat} {known : β} {f : α → Option β}

/-- What stands in a list stands there when there are more items. -/
theorem getElem?_append_of_some (h : items[number]? = some found) (more : List α) :
    (items ++ more)[number]? = some found :=
  (List.getElem?_append_left (List.getElem?_eq_some_iff.1 h).1).trans h

/-- What stands in a list with one more item stood there before, or is the new one. -/
theorem getElem?_concat_cases (h : (items ++ [item])[number]? = some found) :
    items[number]? = some found ∨ number = items.length ∧ found = item := by
  rcases Nat.lt_or_ge number items.length with hlt | hge
  · exact .inl ((List.getElem?_append_left hlt).symm.trans h)
  · have hbound := (List.getElem?_eq_some_iff.1 h).1
    rw [List.length_append, List.length_singleton] at hbound
    obtain rfl : number = items.length := by omega
    exact .inr ⟨rfl, Option.some.inj (h.symm.trans List.getElem?_concat_length)⟩

/-- What is known of an item is known when there are more items. -/
theorem bind_append_of_some (h : items[number]?.bind f = some known) (more : List α) :
    (items ++ more)[number]?.bind f = some known := by
  obtain ⟨found, hfound, hknown⟩ := Option.bind_eq_some_iff.1 h
  exact Option.bind_eq_some_iff.2 ⟨found, getElem?_append_of_some hfound more, hknown⟩

theorem isSome_bind_append (h : (items[number]?.bind f).isSome) (more : List α) :
    ((items ++ more)[number]?.bind f).isSome := by
  obtain ⟨known, hknown⟩ := Option.isSome_iff_exists.1 h
  rw [bind_append_of_some hknown]
  rfl

/-- What is known of an item when there is one more was known before, or is known of the new one. -/
theorem bind_concat_cases (h : (items ++ [item])[number]?.bind f = some known) :
    items[number]?.bind f = some known ∨ number = items.length ∧ f item = some known := by
  obtain ⟨found, hfound, hknown⟩ := Option.bind_eq_some_iff.1 h
  rcases getElem?_concat_cases hfound with hold | ⟨rfl, rfl⟩
  · exact .inl (Option.bind_eq_some_iff.2 ⟨found, hold, hknown⟩)
  · exact .inr ⟨rfl, hknown⟩

/-- Nothing changes if an item is put where it stands. -/
theorem set_of_getElem? (h : items[number]? = some found) : items.set number found = items := by
  obtain ⟨hlt, rfl⟩ := List.getElem?_eq_some_iff.1 h
  exact List.set_getElem_self hlt

/-- What stands in a list where one item was put is that item, or stood there before. -/
theorem getElem?_set_cases {other : Nat} (h : (items.set number item)[other]? = some found) :
    number = other ∧ found = item ∨ number ≠ other ∧ items[other]? = some found := by
  by_cases heq : number = other
  · subst heq
    obtain ⟨hlt, hsame⟩ := List.getElem?_eq_some_iff.1 h
    exact .inl ⟨rfl, by simpa using hsame.symm⟩
  · exact .inr ⟨heq, by rwa [List.getElem?_set_ne heq] at h⟩

/-- What stood in a list is the item that gives way to another one, or stands there still. -/
theorem exists_getElem?_set {old : α} {other : Nat} (hold : items[number]? = some old)
    (hfound : items[other]? = some found) (item : α) :
    ∃ now, (items.set number item)[other]? = some now ∧
      (number = other ∧ found = old ∧ now = item ∨ number ≠ other ∧ now = found) := by
  by_cases heq : number = other
  · subst heq
    exact ⟨item, List.getElem?_set_self (List.getElem?_eq_some_iff.1 hold).1,
      .inl ⟨rfl, Option.some.inj (hfound.symm.trans hold), rfl⟩⟩
  · exact ⟨found, by rwa [List.getElem?_set_ne heq], .inr ⟨heq, rfl⟩⟩

/-- One item has changed, and the others are as they were. -/
theorem getElem?_modify_cases {other : Nat} {change : α → α}
    (h : (items.modify number change)[other]? = some found) :
    ∃ old, items[other]? = some old ∧
      (number = other ∧ found = change old ∨ number ≠ other ∧ found = old) := by
  rw [List.getElem?_modify] at h
  obtain ⟨old, hold, rfl⟩ := Option.map_eq_some_iff.1 h
  refine ⟨old, hold, ?_⟩
  split
  · exact .inl ⟨‹_›, rfl⟩
  · exact .inr ⟨‹_›, rfl⟩

end Lists

/-! ## Items of a heap -/

namespace Heap

variable {α : Type} {due : α → Nat} {items : List α} {x : α}

theorem mem_of_mem_swap {i j : Nat} (h : x ∈ swap items i j) : x ∈ items := by
  unfold swap at h
  split at h
  · rename_i a b hi hj
    rcases List.mem_or_eq_of_mem_set h with h | rfl
    · rcases List.mem_or_eq_of_mem_set h with h | rfl
      · exact h
      · exact List.mem_of_getElem? hj
    · exact List.mem_of_getElem? hi
  · exact h

theorem mem_of_mem_rise {top place : Nat} (h : x ∈ rise due top items place) : x ∈ items := by
  fun_induction rise due top items place with
  | case1 => exact h
  | case2 items place _ _ ih => exact mem_of_mem_swap (ih h)
  | case3 => exact h

theorem mem_of_mem_sink {place : Nat} (h : x ∈ (sink due items place).1) : x ∈ items := by
  fun_induction sink due items place with
  | case1 items place _ ih => exact mem_of_mem_swap (ih h)
  | case2 => exact h

theorem mem_of_mem_settleAt {place : Nat} (h : x ∈ settleAt due items place) : x ∈ items :=
  mem_of_mem_sink (mem_of_mem_rise h)

theorem mem_of_mem_ofList (h : x ∈ (ofList due items).items) : x ∈ items := by
  have settled (places : List Nat) :
      ∀ items : List α, x ∈ places.foldl (settleAt due) items → x ∈ items := by
    induction places with
    | nil => exact fun _ h => h
    | cons place rest ih => exact fun items h => mem_of_mem_settleAt (ih _ h)
  exact settled _ _ h

theorem mem_of_mem_push {heap : Heap α} {item : α} (h : x ∈ (heap.push due item).items) :
    x ∈ heap.items ∨ x = item := by
  simpa using mem_of_mem_rise h

theorem mem_of_mem_pop? {heap rest : Heap α} {item : α} (h : heap.pop? due = some (item, rest)) :
    item ∈ heap.items ∧ ∀ y ∈ rest.items, y ∈ heap.items := by
  unfold pop? at h
  split at h
  · cases h
  · rename_i first tail hitems
    rw [hitems]
    split at h
    · cases h
      exact ⟨List.mem_cons_self, fun y hy => absurd hy List.not_mem_nil⟩
    · rename_i last hlast
      cases h
      refine ⟨List.mem_cons_self, fun y hy => List.mem_cons_of_mem _ ?_⟩
      rcases List.mem_cons.1 (mem_of_mem_settleAt hy) with rfl | hy
      · exact List.mem_of_getLast? hlast
      · exact List.dropLast_subset _ hy

theorem mem_of_mem_popWhile (due : α → Nat) (wanted : α → Bool) (heap : Heap α) :
    (∀ y ∈ (heap.popWhile due wanted).1, y ∈ heap.items) ∧
      ∀ y ∈ (heap.popWhile due wanted).2.items, y ∈ heap.items := by
  fun_induction popWhile due wanted heap with
  | case1 => exact ⟨fun y hy => absurd hy List.not_mem_nil, fun _ hy => hy⟩
  | case2 heap item rest hpop _ items rest' hrest ih =>
    obtain ⟨hitem, hsub⟩ := mem_of_mem_pop? hpop
    rw [hrest] at ih
    refine ⟨fun y hy => ?_, fun y hy => hsub y (ih.2 y hy)⟩
    rcases List.mem_cons.1 hy with rfl | hy
    · exact hitem
    · exact hsub y (ih.1 y hy)
  | case3 => exact ⟨fun y hy => absurd hy List.not_mem_nil, fun _ hy => hy⟩

end Heap

/-! ## What is still to be caused -/

/-- A task that goes on; it goes on nowhere if it is given up before it has run. -/
def Task.woken {Point : Type} (t : Task Point) : Task Point :=
  { t with
    stack := if t.interrupted && !t.begun then [] else t.stack
    waiting := none
    interrupted := false
    begun := true }

theorem Task.stack_woken {Point : Type} (t : Task Point) (h : t.interrupted = false ∨ t.begun = true) :
    t.woken.stack = t.stack := by
  rcases h with h | h <;> simp [Task.woken, h]

namespace Scheduler

variable {Point Answer Hook : Type} {s s' : Scheduler Point Answer Hook} {q : Nat}
  {p p' : Promise Answer Hook} {notice old : Notice Hook} {outcome : Except Failure Answer}

/-- The notices that are queued, set for later, or caused by a promise. -/
def notices (s : Scheduler Point Answer Hook) : List (Notice Hook) :=
  s.ready ++ s.timers.items.map (·.notice) ++ s.promises.flatMap (·.observers)

theorem mem_notices {notice : Notice Hook} : notice ∈ s.notices ↔
    notice ∈ s.ready ∨ (∃ timer ∈ s.timers.items, timer.notice = notice) ∨
      ∃ p ∈ s.promises, notice ∈ p.observers := by
  simp [notices]

/-! ## One promise changes -/

/-- One promise has changed, and with it perhaps what is queued. -/
structure Alters (s s' : Scheduler Point Answer Hook) (q : Nat) (p p' : Promise Answer Hook) : Prop where
  /-- The promise as it was. -/
  promise : s.promises[q]? = some p
  /-- It has changed, and the others are as they were. -/
  promises : s'.promises = s.promises.set q p'
  /-- It is the result of the same task, if of any. -/
  task : p'.task = p.task
  /-- The tasks are as they were. -/
  tasks : s'.tasks = s.tasks
  /-- The same task runs. -/
  running : s'.running = s.running
  /-- The timers are as they were. -/
  timers : s'.timers = s.timers

namespace Alters

variable (h : s.Alters s' q p p')

include h

theorem lt : q < s.promises.length :=
  (List.getElem?_eq_some_iff.1 h.promise).1

theorem length : s'.promises.length = s.promises.length := by
  rw [h.promises, List.length_set]

theorem self : s'.promises[q]? = some p' := by
  rw [h.promises, List.getElem?_set_self h.lt]

theorem getElem?_of_ne {r : Nat} (hne : q ≠ r) : s'.promises[r]? = s.promises[r]? := by
  rw [h.promises, List.getElem?_set_ne hne]

theorem outcome?_of_self : s.outcome? q = p.outcome := by
  rw [Scheduler.outcome?, h.promise, Option.bind_some]

theorem outcome? (r : Nat) : s'.outcome? r = if r = q then p'.outcome else s.outcome? r := by
  split
  · subst r
    rw [Scheduler.outcome?, h.self, Option.bind_some]
  · rename_i hne
    rw [Scheduler.outcome?, h.getElem?_of_ne fun heq => hne heq.symm, Scheduler.outcome?]

/-- The promises are the results of the same tasks. -/
theorem bind_task (r : Nat) :
    (s'.promises[r]?).bind (·.task) = (s.promises[r]?).bind (·.task) := by
  by_cases heq : q = r
  · subst heq
    rw [h.self, h.promise, Option.bind_some, Option.bind_some, h.task]
  · rw [h.getElem?_of_ne heq]

/-- What was known of promises still is, if it was not the promise that has changed. -/
theorem outcome?_of_outcome? {r : Nat} (hkept : ∀ outcome, p.outcome = some outcome → p'.outcome = some outcome)
    (hr : s.outcome? r = some outcome) : s'.outcome? r = some outcome := by
  rw [h.outcome?]
  split
  · subst r
    exact hkept outcome (h.outcome?_of_self.symm.trans hr)
  · exact hr

/-- Nothing is to be caused that was not before, except what is new in the queue or among the observers of
the promise. -/
theorem mem_notices (new : Notice Hook → Prop)
    (hready : ∀ notice ∈ s'.ready, notice ∈ s.ready ∨ notice ∈ p.observers ∨ new notice)
    (hobservers : ∀ notice ∈ p'.observers, notice ∈ p.observers ∨ new notice)
    (hnotice : notice ∈ s'.notices) : notice ∈ s.notices ∨ new notice := by
  have hold : notice ∈ p.observers → notice ∈ s.notices := fun hin =>
    Scheduler.mem_notices.2 (.inr (.inr ⟨p, List.mem_of_getElem? h.promise, hin⟩))
  rw [Scheduler.mem_notices, h.timers, h.promises] at hnotice
  rcases hnotice with hqueued | htimer | ⟨other, hother, hin⟩
  · rcases hready notice hqueued with hqueued | hin | hnew
    · exact .inl (Scheduler.mem_notices.2 (.inl hqueued))
    · exact .inl (hold hin)
    · exact .inr hnew
  · exact .inl (Scheduler.mem_notices.2 (.inr (.inl htimer)))
  · rcases List.mem_or_eq_of_mem_set hother with hother | rfl
    · exact .inl (Scheduler.mem_notices.2 (.inr (.inr ⟨other, hother, hin⟩)))
    · exact (hobservers notice hin).imp_left hold

theorem mem_notices_of_same (hready : s'.ready = s.ready) (hobservers : p'.observers = p.observers)
    (hnotice : notice ∈ s'.notices) : notice ∈ s.notices :=
  (h.mem_notices (fun _ => False) (fun _ hin => .inl (hready ▸ hin)) (fun _ hin => .inl (hobservers ▸ hin))
    hnotice).resolve_right id

end Alters

/-! ## Promises -/

/-- A promise that is open is settled, and its observers are told; one that is settled stays so. -/
theorem settle_cases (s : Scheduler Point Answer Hook) (q : Nat) (outcome : Except Failure Answer) :
    s.settle q outcome = s ∧ (q < s.promises.length → (s.outcome? q).isSome) ∨
      ∃ p, p.outcome = none ∧
        s.Alters (s.settle q outcome) q p { p with outcome := some outcome, observers := [] } ∧
        (s.settle q outcome).ready = s.ready ++ p.observers := by
  unfold settle
  cases hp : s.promises[q]? with
  | none => exact .inl ⟨rfl, fun hlt => absurd hp (by simpa using hlt)⟩
  | some p =>
    simp only
    split
    · rename_i hsome
      refine .inl ⟨rfl, fun _ => ?_⟩
      rwa [Scheduler.outcome?, hp, Option.bind_some]
    · rename_i hopen
      exact .inr ⟨p, by simpa using hopen, ⟨hp, rfl, rfl, rfl, rfl, rfl⟩, rfl⟩

theorem settle_of_isSome (h : (s.outcome? q).isSome) : s.settle q outcome = s := by
  rcases s.settle_cases q outcome with ⟨hsame, -⟩ | ⟨p, hopen, halters, -⟩
  · exact hsame
  · rw [halters.outcome?_of_self, hopen] at h
    cases h

theorem settle_of_length_le (h : s.promises.length ≤ q) : s.settle q outcome = s := by
  rcases s.settle_cases q outcome with ⟨hsame, -⟩ | ⟨p, -, halters, -⟩
  · exact hsame
  · exact absurd halters.lt (Nat.not_lt.2 h)

theorem settle_same (s : Scheduler Point Answer Hook) (q : Nat) (outcome : Except Failure Answer) :
    (s.settle q outcome).running = s.running ∧ (s.settle q outcome).tasks = s.tasks := by
  rcases s.settle_cases q outcome with ⟨hsame, -⟩ | ⟨p, -, halters, -⟩
  · rw [hsame]
    exact ⟨rfl, rfl⟩
  · exact ⟨halters.running, halters.tasks⟩

/-- Settling a promise leaves it settled. -/
theorem isSome_settle (hq : q < s.promises.length) : ((s.settle q outcome).outcome? q).isSome := by
  rcases s.settle_cases q outcome with ⟨hsame, hsettled⟩ | ⟨p, -, halters, -⟩
  · rw [hsame]
    exact hsettled hq
  · rw [halters.outcome?, if_pos rfl]
    rfl

/-- What is known stays known. -/
theorem outcome?_settle {r : Nat} {known : Except Failure Answer} (hr : s.outcome? r = some known) :
    (s.settle q outcome).outcome? r = some known := by
  rcases s.settle_cases q outcome with ⟨hsame, -⟩ | ⟨p, hopen, halters, -⟩
  · rw [hsame]
    exact hr
  · exact halters.outcome?_of_outcome? (by simp [hopen]) hr

theorem mem_notices_settle (hnotice : notice ∈ (s.settle q outcome).notices) : notice ∈ s.notices := by
  rcases s.settle_cases q outcome with ⟨hsame, -⟩ | ⟨p, -, halters, hready⟩
  · rwa [hsame] at hnotice
  · -- the observers of the promise move to the queue
    refine (halters.mem_notices (fun _ => False) (fun other hother => ?_)
      (fun _ hin => absurd hin List.not_mem_nil) hnotice).resolve_right id
    rw [hready] at hother
    exact (List.mem_append.1 hother).imp id .inl

/-- A promise is observed, or its observer is told at once that it is settled. -/
theorem observe_cases (s : Scheduler Point Answer Hook) (q : Nat) (notice : Notice Hook) :
    s.promises[q]? = none ∧ s.observe q notice = s ∨
      (s.outcome? q).isSome ∧ s.observe q notice = { s with ready := s.ready ++ [notice] } ∨
      ∃ p, p.outcome = none ∧
        s.Alters (s.observe q notice) q p { p with observers := p.observers ++ [notice] } ∧
        (s.observe q notice).ready = s.ready := by
  unfold observe
  cases hp : s.promises[q]? with
  | none => exact .inl ⟨rfl, rfl⟩
  | some p =>
    simp only
    split
    · rename_i hsome
      exact .inr (.inl ⟨by rwa [Scheduler.outcome?, hp, Option.bind_some], rfl⟩)
    · rename_i hopen
      exact .inr (.inr ⟨p, by simpa using hopen, ⟨hp, rfl, rfl, rfl, rfl, rfl⟩, rfl⟩)

theorem observe_same (s : Scheduler Point Answer Hook) (q : Nat) (notice : Notice Hook) :
    (s.observe q notice).running = s.running ∧ (s.observe q notice).tasks = s.tasks := by
  rcases s.observe_cases q notice with ⟨-, hsame⟩ | ⟨-, hqueued⟩ | ⟨p, -, halters, -⟩
  · rw [hsame]
    exact ⟨rfl, rfl⟩
  · rw [hqueued]
    exact ⟨rfl, rfl⟩
  · exact ⟨halters.running, halters.tasks⟩

/-- To observe a promise settles none. -/
theorem outcome?_observe (s : Scheduler Point Answer Hook) (q : Nat) (notice : Notice Hook) :
    (s.observe q notice).outcome? = s.outcome? := by
  funext r
  rcases s.observe_cases q notice with ⟨-, hsame⟩ | ⟨-, hqueued⟩ | ⟨p, -, halters, -⟩
  · rw [hsame]
  · rw [hqueued]
    rfl
  · rw [halters.outcome?]
    split
    · subst r
      exact halters.outcome?_of_self.symm
    · rfl

theorem mem_notices_observe {other : Notice Hook} (hother : other ∈ (s.observe q notice).notices) :
    other ∈ s.notices ∨ other = notice := by
  rcases s.observe_cases q notice with ⟨-, hsame⟩ | ⟨-, hqueued⟩ | ⟨p, -, halters, hready⟩
  · exact .inl (hsame ▸ hother)
  · rw [hqueued, mem_notices] at hother
    rcases hother with hother | hrest
    · refine (List.mem_append.1 hother).imp (fun hold => mem_notices.2 (.inl hold)) List.mem_singleton.1
    · exact .inl (mem_notices.2 (.inr hrest))
  · refine halters.mem_notices (· = notice) (fun _ hin => .inl (hready ▸ hin)) (fun _ hin => ?_) hother
    exact (List.mem_append.1 hin).imp id List.mem_singleton.1

/-- A promise that waits for several things has one of them, and is settled if it was the last. -/
theorem countDown_cases [Inhabited Answer] (s : Scheduler Point Answer Hook) (q : Nat) :
    s.countDown q = s ∨ ∃ p s', s.Alters s' q p { p with missing := p.missing - 1 } ∧
      s'.ready = s.ready ∧ (s.countDown q = s' ∨ s.countDown q = s'.settle q (.ok default)) := by
  unfold countDown
  cases hp : s.promises[q]? with
  | none => exact .inl rfl
  | some p =>
    let counted : Scheduler Point Answer Hook :=
      { s with promises := s.promises.set q { p with missing := p.missing - 1 } }
    refine .inr ⟨p, counted, ⟨hp, rfl, rfl, rfl, rfl, rfl⟩, rfl, ?_⟩
    simp only
    split
    · exact .inr rfl
    · exact .inl rfl

theorem countDown_same [Inhabited Answer] (s : Scheduler Point Answer Hook) (q : Nat) :
    (s.countDown q).running = s.running ∧ (s.countDown q).tasks = s.tasks := by
  rcases s.countDown_cases q with hsame | ⟨p, s', halters, -, heq | heq⟩
  · rw [hsame]
    exact ⟨rfl, rfl⟩
  · rw [heq]
    exact ⟨halters.running, halters.tasks⟩
  · rw [heq, (s'.settle_same q _).1, (s'.settle_same q _).2]
    exact ⟨halters.running, halters.tasks⟩

@[simp]
theorem length_promises_settle (promise : Nat) (outcome : Except Failure Answer) :
    (s.settle promise outcome).promises.length = s.promises.length := by
  rcases s.settle_cases promise outcome with ⟨hsame, -⟩ | ⟨p, -, halters, -⟩
  · rw [hsame]
  · exact halters.length

@[simp]
theorem length_promises_observe (promise : Nat) (notice : Notice Hook) :
    (s.observe promise notice).promises.length = s.promises.length := by
  rcases s.observe_cases promise notice with ⟨-, hsame⟩ | ⟨-, hqueued⟩ | ⟨p, -, halters, -⟩
  · rw [hsame]
  · rw [hqueued]
  · exact halters.length

/-! ## Giving up -/

/-- A task that is given up is marked, or what it waits for is given up. -/
theorem interrupt_cases (s : Scheduler Point Answer Hook) (task : Nat) :
    s.interrupt task = s ∨ ∃ t, s.tasks[task]? = some t ∧
      (s.interrupt task = { s with tasks := s.tasks.set task { t with interrupted := true } } ∨
        ∃ q, t.waiting = some q ∧ s.interrupt task = s.settle q (.error .cancelled)) := by
  unfold interrupt
  cases ht : s.tasks[task]? with
  | none => exact .inl rfl
  | some t =>
    simp only
    split
    · exact .inl rfl
    · refine .inr ⟨t, rfl, ?_⟩
      split
      · rename_i q hwaiting
        split
        · exact .inl rfl
        · exact .inr ⟨q, hwaiting, rfl⟩
      · exact .inl rfl

/-- A promise is given up with the task whose result it is, or else by itself. -/
theorem giveUp_cases (s : Scheduler Point Answer Hook) (q : Nat) :
    (∃ task, (s.promises[q]?).bind (·.task) = some task ∧ s.giveUp q = s.interrupt task) ∨
      (s.promises[q]?).bind (·.task) = none ∧ s.giveUp q = s.settle q (.error .cancelled) := by
  unfold giveUp
  cases htask : (s.promises[q]?).bind (·.task) with
  | some task => exact .inl ⟨task, rfl, rfl⟩
  | none => exact .inr ⟨rfl, rfl⟩

@[simp]
theorem length_promises_interrupt (task : Nat) :
    (s.interrupt task).promises.length = s.promises.length := by
  rcases s.interrupt_cases task with heq | ⟨t, -, heq | ⟨q, -, heq⟩⟩ <;> rw [heq]
  exact length_promises_settle q _

@[simp]
theorem length_promises_giveUp (promise : Nat) :
    (s.giveUp promise).promises.length = s.promises.length := by
  rcases s.giveUp_cases promise with ⟨task, -, heq⟩ | ⟨-, heq⟩ <;> simp [heq]

/-! ## Timers and time -/

theorem mem_notices_addTimer {other : Notice Hook} {delay : Nat} (hother : other ∈ (s.addTimer delay notice).2.notices) :
    other ∈ s.notices ∨ other = notice := by
  simp only [mem_notices, addTimer] at hother ⊢
  rcases hother with hready | ⟨timer, htimer, rfl⟩ | hother
  · exact .inl (.inl hready)
  · rcases Heap.mem_of_mem_push htimer with hold | rfl
    · exact .inl (.inr (.inl ⟨timer, hold, rfl⟩))
    · exact .inr rfl
  · exact .inl (.inr (.inr hother))

theorem mem_notices_stopTimer {number : Nat} (hnotice : notice ∈ (s.stopTimer number).notices) :
    notice ∈ s.notices := by
  simp only [mem_notices, stopTimer, Heap.map, List.mem_map] at hnotice ⊢
  refine hnotice.imp id (Or.imp ?_ id)
  rintro ⟨_, ⟨timer, htimer, rfl⟩, rfl⟩
  exact ⟨timer, htimer, by split <;> rfl⟩

/-- Taking stopped timers away changes nothing else. -/
theorem dropStopped_same (s : Scheduler Point Answer Hook) :
    s.dropStopped.running = s.running ∧ s.dropStopped.tasks = s.tasks ∧
      s.dropStopped.promises = s.promises ∧ s.dropStopped.ready = s.ready ∧
      ∀ timer ∈ s.dropStopped.timers.items, timer ∈ s.timers.items := by
  unfold dropStopped
  split
  · exact ⟨rfl, rfl, rfl, rfl, fun timer htimer =>
      (List.mem_filter.1 (Heap.mem_of_mem_ofList htimer)).1⟩
  · exact ⟨rfl, rfl, rfl, rfl, (Heap.mem_of_mem_popWhile Timer.due Timer.stopped s.timers).2⟩

/-- What is first in the queue is taken from it. -/
theorem takeNotice_cases (htake : s.takeNotice = some (notice, s')) :
    ∃ rest kept turn, s.ready = notice :: rest ∧ (kept = s ∨ kept = s.dropStopped) ∧
      s' = { kept with ready := rest, turn := turn } := by
  unfold takeNotice at htake
  split at htake
  · cases htake
  · rename_i first rest hqueue
    split at htake <;> (obtain ⟨rfl, rfl⟩ : first = notice ∧ _ = s' := by simpa using htake)
    · exact ⟨rest, _, _, hqueue, .inr rfl, rfl⟩
    · exact ⟨rest, _, _, hqueue, .inl rfl, rfl⟩

/-- Taking a notice from the queue touches no task and no promise. -/
theorem takeNotice_same (htake : s.takeNotice = some (notice, s')) :
    s'.running = s.running ∧ s'.tasks = s.tasks ∧ s'.promises = s.promises ∧
      (∀ other ∈ s'.ready, other ∈ s.ready) ∧ ∀ timer ∈ s'.timers.items, timer ∈ s.timers.items := by
  obtain ⟨rest, kept, turn, hqueue, hkept, rfl⟩ := takeNotice_cases htake
  obtain ⟨hrunning, htasks, hpromises, -, htimers⟩ := s.dropStopped_same
  have hrest : ∀ other ∈ rest, other ∈ s.ready := fun other hother => by simp [hqueue, hother]
  rcases hkept with rfl | rfl
  · exact ⟨rfl, rfl, rfl, hrest, fun _ htimer => htimer⟩
  · exact ⟨hrunning, htasks, hpromises, hrest, htimers⟩

theorem mem_ready_of_takeNotice (htake : s.takeNotice = some (notice, s')) : notice ∈ s.ready := by
  obtain ⟨rest, kept, turn, hqueue, -⟩ := takeNotice_cases htake
  simp [hqueue]

theorem mem_notices_takeNotice (htake : s.takeNotice = some (notice, s')) (hold : old ∈ s'.notices) :
    old ∈ s.notices := by
  obtain ⟨-, -, hpromises, hready, htimers⟩ := takeNotice_same htake
  rw [mem_notices, hpromises] at hold
  rcases hold with hqueued | ⟨timer, htimer, rfl⟩ | hobserver
  · exact mem_notices.2 (.inl (hready old hqueued))
  · exact mem_notices.2 (.inr (.inl ⟨timer, htimers timer htimer, rfl⟩))
  · exact mem_notices.2 (.inr (.inr hobserver))

theorem moveTo_same (s : Scheduler Point Answer Hook) (moment : Nat) :
    (s.moveTo moment).running = s.running ∧ (s.moveTo moment).tasks = s.tasks ∧
      (s.moveTo moment).promises = s.promises := by
  obtain ⟨hrunning, htasks, hpromises, -⟩ := s.dropStopped_same
  exact ⟨hrunning, htasks, hpromises⟩

/-- When time moves on, timers go off. -/
theorem moveTo_timers (s : Scheduler Point Answer Hook) (moment : Nat) :
    (∀ notice ∈ (s.moveTo moment).ready, notice ∈ s.ready ∨ ∃ timer ∈ s.timers.items, timer.notice = notice) ∧
      ∀ timer ∈ (s.moveTo moment).timers.items, timer ∈ s.timers.items := by
  obtain ⟨-, -, -, hready, htimers⟩ := s.dropStopped_same
  have hpop := Heap.mem_of_mem_popWhile Timer.due (·.due ≤ moment) s.dropStopped.timers
  refine ⟨fun notice hnotice => ?_, fun timer htimer => htimers timer (hpop.2 timer htimer)⟩
  simp only [moveTo, List.mem_append, List.mem_map, List.mem_filter, hready] at hnotice
  rcases hnotice with hqueued | ⟨timer, ⟨htimer, -⟩, heq⟩
  · exact .inl hqueued
  · exact .inr ⟨timer, htimers timer (hpop.1 timer htimer), heq⟩

theorem mem_notices_moveTo {moment : Nat} (hnotice : notice ∈ (s.moveTo moment).notices) :
    notice ∈ s.notices := by
  obtain ⟨hready, htimers⟩ := s.moveTo_timers moment
  rw [mem_notices, (s.moveTo_same moment).2.2] at hnotice
  rcases hnotice with hqueued | ⟨timer, htimer, rfl⟩ | hobserver
  · exact mem_notices.2 ((hready notice hqueued).imp id .inl)
  · exact mem_notices.2 (.inr (.inl ⟨timer, htimers timer htimer, rfl⟩))
  · exact mem_notices.2 (.inr (.inr hobserver))

/-! ## Tasks -/

theorem mem_notices_spawn {point : Point} (hnotice : notice ∈ (s.spawn point).2.notices) :
    notice ∈ s.notices ∨ notice = .wake s.tasks.length := by
  simp only [mem_notices, spawn, List.mem_append, List.mem_singleton] at hnotice ⊢
  rcases hnotice with (hready | rfl) | htimer | ⟨other, hother | rfl, hin⟩
  · exact .inl (.inl hready)
  · exact .inr rfl
  · exact .inl (.inr (.inl htimer))
  · exact .inl (.inr (.inr ⟨other, hother, hin⟩))
  · cases hin

/-- What a task is told when it goes on: that it starts, or the outcome of what it waited for. -/
theorem news?_eq_some [Inhabited Answer] {t : Task Point} {outcome : Except Failure Answer}
    (hnews : s.news? t = some outcome) : t.waiting = none ∧ outcome = .ok default ∨
      ∃ q, t.waiting = some q ∧ s.outcome? q = some outcome := by
  unfold news? at hnews
  cases hwaiting : t.waiting with
  | none =>
    rw [hwaiting] at hnews
    exact .inl ⟨rfl, (Option.some.inj hnews).symm⟩
  | some q =>
    rw [hwaiting] at hnews
    exact .inr ⟨q, rfl, hnews⟩

/-- A task that has been told something goes on with that, or is told that it is given up. -/
theorem resume_eq_or [Inhabited Answer] (s : Scheduler Point Answer Hook) (task : Nat) :
    s.resume task = s ∨ ∃ t outcome, s.tasks[task]? = some t ∧ s.news? t = some outcome ∧
      s.resume task = { s with
        tasks := s.tasks.set task t.woken
        running := some (task, if t.interrupted then .error .cancelled else outcome) } := by
  unfold resume
  cases ht : s.tasks[task]? with
  | none => exact .inl rfl
  | some t =>
    simp only
    cases hnews : s.news? t with
    | none => exact .inl rfl
    | some outcome => exact .inr ⟨t, outcome, rfl, hnews, rfl⟩

/-- A task goes on where it waited; one that is given up before it has run goes on nowhere. -/
theorem resume_cases [Inhabited Answer] (s : Scheduler Point Answer Hook) (task : Nat) :
    s.resume task = s ∨ ∃ t t' outcome, s.tasks[task]? = some t ∧ t'.result = t.result ∧
      t'.begun = true ∧
      s.resume task = { s with tasks := s.tasks.set task t', running := some (task, outcome) } ∧
      (t'.stack = t.stack ∧ (s.news? t = some outcome ∨ outcome = .error .cancelled) ∨
        t'.stack = [] ∧ t.begun = false) := by
  refine (s.resume_eq_or task).imp id ?_
  rintro ⟨t, outcome, ht, hnews, heq⟩
  refine ⟨t, t.woken, _, ht, rfl, rfl, heq, ?_⟩
  cases hinterrupted : t.interrupted with
  | false => exact .inl ⟨t.stack_woken (.inl hinterrupted), .inl hnews⟩
  | true =>
    cases hbegun : t.begun with
    | false => exact .inr ⟨by simp [Task.woken, hinterrupted, hbegun], rfl⟩
    | true => exact .inl ⟨t.stack_woken (.inr hbegun), .inr rfl⟩

theorem proceed_of_none {task : Nat} (ht : s.tasks[task]? = none) (next : Next Point Answer) :
    s.proceed task next = { s with running := none } := by
  rw [proceed, ht]

/-- The running task goes on at once, or waits for a promise that is open. -/
theorem proceed_cases (s : Scheduler Point Answer Hook) {task : Nat} {t : Task Point}
    (ht : s.tasks[task]? = some t) (next : Next Point Answer) :
    (∃ outcome points, (next = .go outcome points ∨
        ∃ q, next = .wait q points ∧ s.outcome? q = some outcome) ∧
      s.proceed task next = { s with
        tasks := s.tasks.set task { t with stack := points ++ t.stack }
        running := some (task, outcome) }) ∨
      ∃ q points, next = .wait q points ∧ s.outcome? q = none ∧
        s.proceed task next = { s with
          tasks := s.tasks.set task { t with stack := points ++ t.stack, waiting := some q }
          running := none }.observe q (.wake task) := by
  unfold proceed
  rw [ht]
  cases next with
  | go outcome points => exact .inl ⟨outcome, points, .inl rfl, rfl⟩
  | wait q points =>
    simp only
    cases hq : s.outcome? q with
    | some outcome => exact .inl ⟨outcome, points, .inr ⟨q, rfl, hq⟩, rfl⟩
    | none => exact .inr ⟨q, points, rfl, hq, rfl⟩

end Scheduler

end BasiliskServer.Tasks
