import BasiliskServer.Proofs.World.Ledger.Promises

/-!
# Tasks as the ledger says

Starting and interrupting tasks, giving them up, and taking one of them on keeps everything in the
scheduler as the ledger says (`Books.proceed`, `Books.resume`, `Books.finish`).
-/

namespace BasiliskServer.World

open Tasks (Notice Scheduler Standing)

variable {Γ Γ' : Ledger} {f f' : Facts} {counter : Counter} {owner : Option Nat} {result : Nat}
  {below e : Expectation} {outcome : Outcome}

namespace Books

variable {s s' : Scheduler Point Answer Hook}

/-! ## Tasks -/

/-- A task begins. -/
theorem spawn (h : Books counter owner Γ f s) {activity : Activity} {purpose : Purpose}
    (hpurpose : purpose.expectation? = some e) (hbegins : counter.Begins activity e)
    (herrand : ∀ number, purpose = .errand number → number = s.tasks.length) :
    Books counter owner (Γ.add purpose) f (s.spawn (.start activity)).2 := by
  have hext : Γ.Extends owner (Γ.add purpose) := Ledger.extends_add purpose
  have hlength := h.length
  let p : Tasks.Promise Answer Hook := { task := some s.tasks.length }
  let task : Tasks.Task Point := { stack := [.start activity], result := s.promises.length }
  -- The task and the promise of its result are new and the last of their kind; others are as before.
  have htasks : ∀ {number : Nat} {other : Tasks.Task Point},
      (s.tasks ++ [task])[number]? = some other →
      s.tasks[number]? = some other ∨ number = s.tasks.length ∧ other = task :=
    Tasks.getElem?_concat_cases
  have hkept : ∀ {number : Nat} {other : Tasks.Task Point}, s.tasks[number]? = some other →
      (s.tasks ++ [task])[number]? = some other := fun ho => Tasks.getElem?_append_of_some ho _
  refine ⟨?length, ?dropped, ?outcomes, ?notices, ?tasks, ?finished, ?results, ?owners, ?bare,
    ?errands, ?running, ?acting⟩
  case length => simp [Ledger.add, Scheduler.spawn, hlength]
  case dropped =>
    intro q hq
    obtain ⟨other, hother, hdroppable⟩ := h.dropped q hq
    exact ⟨other, hext.purposes _ _ hother, hdroppable⟩
  case outcomes =>
    intro q other outcome hother ho
    have ho : s.outcome? q = some outcome := outcome?_append rfl ho
    obtain ⟨p', hp', -⟩ := Option.bind_eq_some_iff.1 ho
    have hlt := (List.getElem?_eq_some_iff.1 hp').1
    rw [Ledger.add, List.getElem?_append_left (by omega)] at hother
    exact (h.outcomes q other outcome hother ho).mono hext (.refl f)
  case notices =>
    intro notice hnotice
    rcases Scheduler.mem_notices_spawn hnotice with hold | rfl
    · exact (h.notices notice hold).mono hext
    · trivial
  case tasks =>
    intro number other ho
    rcases htasks ho with hother | ⟨rfl, rfl⟩
    · exact h.tasks_mono hext hother
    · refine ⟨e, ⟨purpose, ?_, hpurpose⟩, ⟨hbegins, trivial⟩, fun hflag => (by cases hflag), fun _ =>
        ⟨fun q hq => (by cases hq), fun _ => .inr ⟨rfl, activity, rfl⟩⟩⟩
      show (Γ.add purpose).purposes[s.promises.length]? = _
      rw [← hlength]
      exact Ledger.purposes_add_length purpose
  case finished =>
    intro number other ho hidle hnil hnone
    rcases htasks ho with hother | ⟨rfl, rfl⟩
    · exact Tasks.isSome_bind_append (h.finished number other hother hidle hnil hnone) _
    · cases hnil
  case results =>
    intro number other ho
    rcases htasks ho with hother | ⟨rfl, rfl⟩
    · exact Tasks.bind_append_of_some (h.results number other hother) _
    · show ((s.promises ++ [p])[s.promises.length]?).bind (·.task) = _
      simp [p]
  case owners =>
    intro q number hq
    have hq : ((s.promises ++ [p])[q]?).bind (·.task) = some number := hq
    rcases Tasks.bind_concat_cases hq with hold | ⟨rfl, htask⟩
    · obtain ⟨other, hother, hresult⟩ := h.owners q number hold
      exact ⟨other, hkept hother, hresult⟩
    · obtain rfl := Option.some.inj htask
      exact ⟨task, List.getElem?_concat_length, rfl⟩
  case bare =>
    intro q other hother hq
    have hq : ((s.promises ++ [p])[q]?).bind (·.task) = none := hq
    rcases Ledger.purposes_add_cases hother with hother | ⟨rfl, rfl⟩
    · refine h.bare q other hother (Option.eq_none_iff_forall_ne_some.2 fun number htask => ?_)
      rw [Tasks.bind_append_of_some htask] at hq
      cases hq
    · rw [hlength, List.getElem?_concat_length] at hq
      cases hq
  case errands =>
    intro q number hq
    show ((s.promises ++ [p])[q]?).bind (·.task) = _
    rcases Ledger.purposes_add_cases hq with hold | ⟨rfl, rfl⟩
    · exact Tasks.bind_append_of_some (h.errands q number hold) _
    · rw [herrand number rfl, hlength, List.getElem?_concat_length]
      rfl
  case running =>
    intro number outcome hrunning
    obtain ⟨other, hother, hrest⟩ := h.running number outcome hrunning
    exact ⟨other, hkept hother, hrest⟩
  case acting =>
    intro result howner
    obtain ⟨number, outcome, other, hrunning, hother, hrest⟩ := h.acting result howner
    exact ⟨number, outcome, other, hrunning, hkept hother, hrest⟩

/-- One task is moved, and runs or does not. -/
theorem setTask {number : Nat} {task task' : Tasks.Task Point} {owner' : Option Nat}
    (running' : Option (Nat × Outcome)) (h : Books counter owner Γ f s)
    (ht : s.tasks[number]? = some task) (hresult : task'.result = task.result)
    (hkeeps : ∃ below, Γ.Keeps counter (∀ outcome, running' ≠ some (number, outcome)) task' below)
    (hover : (∀ outcome, running' ≠ some (number, outcome)) → task'.stack = [] →
      task'.waiting = none → (s.outcome? task'.result).isSome)
    (hothers : ∀ other outcome, other ≠ number → s.running = some (other, outcome) →
      running' = some (other, outcome))
    (hruns : ∀ other outcome, running' = some (other, outcome) →
      other ≠ number ∧ s.running = some (other, outcome) ∨
        other = number ∧ task'.waiting = none ∧ task'.begun = true)
    (hacting : ∀ result, owner' = some result → ∃ other outcome acting,
      running' = some (other, outcome) ∧ (s.tasks.set number task')[other]? = some acting ∧
        acting.result = result ∧ ∀ point ∈ acting.stack, point.isWait = false) :
    Books counter owner' Γ f { s with tasks := s.tasks.set number task', running := running' } := by
  -- every field is looked at for the task that was moved, and for the others as it was before
  refine ⟨h.length, h.dropped, h.outcomes, h.notices, ?tasks, ?finished, ?results, ?owners, h.bare,
    h.errands, ?running, hacting⟩
  case tasks =>
    intro other moved ho
    rcases Tasks.getElem?_set_cases ho with ⟨rfl, rfl⟩ | ⟨hne, ho⟩
    · exact hkeeps
    · obtain ⟨below, hkept⟩ := h.tasks other moved ho
      refine ⟨below, hkept.purpose, hkept.sits, hkept.interrupted, fun hrests => hkept.rests ?_⟩
      exact fun outcome hrunning => hrests outcome (hothers other outcome (Ne.symm hne) hrunning)
  case finished =>
    intro other moved ho hidle
    rcases Tasks.getElem?_set_cases ho with ⟨rfl, rfl⟩ | ⟨hne, ho⟩
    · exact hover hidle
    · exact h.finished other moved ho fun outcome hrunning =>
        hidle outcome (hothers other outcome (Ne.symm hne) hrunning)
  case results =>
    intro other moved ho
    rcases Tasks.getElem?_set_cases ho with ⟨rfl, rfl⟩ | ⟨-, ho⟩
    · rw [hresult]
      exact h.results number task ht
    · exact h.results other moved ho
  case owners =>
    intro q other hq
    obtain ⟨owned, howned, howns⟩ := h.owners q other hq
    obtain ⟨now, hnow, ⟨-, rfl, rfl⟩ | ⟨-, rfl⟩⟩ := Tasks.exists_getElem?_set ht howned task'
    · exact ⟨now, hnow, hresult.trans howns⟩
    · exact ⟨now, hnow, howns⟩
  case running =>
    intro other outcome hrunning
    rcases hruns other outcome hrunning with ⟨hne, hold⟩ | ⟨rfl, hrest⟩
    · obtain ⟨moved, hmoved, hrest⟩ := h.running other outcome hold
      exact ⟨moved, (List.getElem?_set_ne (Ne.symm hne)).trans hmoved, hrest⟩
    · exact ⟨task', List.getElem?_set_self (List.getElem?_eq_some_iff.1 ht).1, hrest⟩

/-- A task that was there stays there when it is changed without being moved. -/
theorem mark {number : Nat} {task : Tasks.Task Point} (h : Books counter owner Γ f s)
    (ht : s.tasks[number]? = some task) (hdropped : task.result ∈ Γ.dropped) :
    Books counter owner Γ f
      { s with tasks := s.tasks.set number { task with interrupted := true } } := by
  obtain ⟨below, hkeeps⟩ := h.tasks number task ht
  -- Only the flag changes: the task waits, runs or acts as it did.
  refine h.setTask s.running ht rfl ⟨below, hkeeps.purpose, hkeeps.sits, fun _ => hdropped,
    fun hrests => ⟨(hkeeps.rests hrests).feeds, (hkeeps.rests hrests).fresh⟩⟩ (h.finished number task ht)
    (fun _ _ _ hr => hr) ?_ ?_
  · intro other outcome hrunning
    by_cases heq : other = number
    · subst heq
      obtain ⟨running, hr, hrest⟩ := h.running other outcome hrunning
      rw [ht] at hr
      obtain rfl := Option.some.inj hr
      exact .inr ⟨rfl, hrest⟩
    · exact .inl ⟨heq, hrunning⟩
  · intro result howner
    obtain ⟨other, outcome, acting, hrunning, hacting, hresult, hcalm⟩ := h.acting result howner
    obtain ⟨now, hnow, ⟨-, rfl, rfl⟩ | ⟨-, rfl⟩⟩ :=
      Tasks.exists_getElem?_set ht hacting { task with interrupted := true } <;>
    exact ⟨other, outcome, _, hrunning, hnow, hresult, hcalm⟩

/-- A promise is given up on paper. -/
theorem drop (h : Books counter owner Γ f s) {q : Nat} {purpose : Purpose}
    (hpurpose : Γ.purposes[q]? = some purpose) (hdroppable : purpose.IsDroppable owner) :
    Books counter owner (Γ.drop q) f s := by
  have hext : Γ.Extends owner (Γ.drop q) := Ledger.extends_drop hpurpose hdroppable
  refine ⟨h.length, ?_, ?_, ?_, fun number task ht => h.tasks_mono hext ht, h.finished, h.results,
    h.owners, h.bare, h.errands, h.running, h.acting⟩
  · intro other hother
    rcases List.mem_cons.1 hother with rfl | hother
    · exact ⟨purpose, hpurpose, owner, hdroppable⟩
    · exact h.dropped other hother
  · exact fun other purpose outcome hother ho =>
      (h.outcomes other purpose outcome hother ho).mono hext (.refl f)
  · exact fun notice hnotice => (h.notices notice hnotice).mono hext

/-- A task that may be given up relies on nothing that forbids it. -/
theorem lenient_of_isDroppable {purpose : Purpose} (hdroppable : purpose.IsDroppable owner)
    (hbelow : purpose.expectation? = some below) : below.IsLenient := by
  cases purpose with
  | errand task =>
    cases hbelow
    trivial
  | ending process owner =>
    cases hbelow
    trivial
  | answer channel id owner => cases hbelow
  | _ => cases hdroppable

/-- A task that may be given up is given up. -/
theorem interrupt (h : Books counter owner Γ f s) {number : Nat} {task : Tasks.Task Point}
    (ht : s.tasks[number]? = some task) {purpose : Purpose}
    (hpurpose : Γ.purposes[task.result]? = some purpose) (hdroppable : purpose.IsDroppable owner) :
    Books counter owner (Γ.drop task.result) f (s.interrupt number) := by
  have hdropped := h.drop hpurpose hdroppable
  have hmem : task.result ∈ (Γ.drop task.result).dropped := List.mem_cons_self
  rcases s.interrupt_cases number with heq | ⟨same, hsame, heq | ⟨q, hwaiting, heq⟩⟩ <;> rw [heq]
  · exact hdropped
  · obtain rfl := Option.some.inj (ht.symm.trans hsame)
    exact hdropped.mark ht hmem
  · -- what the task waits for may be given up
    obtain rfl := Option.some.inj (ht.symm.trans hsame)
    refine hdropped.settle fun other hother => ?_
    obtain ⟨below, ⟨own, hown, hbelow⟩, hsits, -, hrests⟩ := h.tasks number task ht
    have hidle : ∀ outcome, s.running ≠ some (number, outcome) := by
      intro outcome hrunning
      obtain ⟨running, hr, hnone, -⟩ := h.running number outcome hrunning
      rw [ht] at hr
      rw [← Option.some.inj hr, hwaiting] at hnone
      cases hnone
    obtain ⟨⟨fed, hfed, -, hfeeds⟩, -⟩ := (hrests hidle).feeds q hwaiting
    rw [show Γ.purposes[q]? = some other from hother] at hfed
    obtain rfl := Option.some.inj hfed
    rw [hpurpose] at hown
    obtain rfl := Option.some.inj hown
    have hlenient := lenient_of_isDroppable hdroppable hbelow
    -- it relies on nothing that forbids it
    rcases hsits.lenient hlenient with hlead | hlead
    · rcases Purpose.feeds_lenient hfeeds hlead with rfl | ⟨process, rfl⟩
      · trivial
      · exact ⟨fun a ha => (by cases ha), fun failure hf =>
          ⟨(Except.error.inj hf).symm, hmem⟩⟩
    · exact absurd (hlead ▸ hfeeds) Purpose.not_feeds_beginning

/-- A promise that the acting task may give up is given up. -/
theorem giveUp (h : Books counter owner Γ f s) {q : Nat} {purpose : Purpose}
    (hpurpose : Γ.purposes[q]? = some purpose) (hdroppable : purpose.IsDroppable owner)
    (hwaits : ∃ result e, purpose.Yields result q e) :
    Books counter owner (Γ.drop q) f (s.giveUp q) := by
  rcases s.giveUp_cases q with ⟨number, hnumber, heq⟩ | ⟨hnone, heq⟩ <;> rw [heq]
  · obtain ⟨task, ht, rfl⟩ := h.owners q number hnumber
    exact h.interrupt ht hpurpose hdroppable
  · refine (h.drop hpurpose hdroppable).settle fun other hother => ?_
    rw [show Γ.purposes[q]? = some other from hother] at hpurpose
    obtain rfl := Option.some.inj hpurpose
    obtain ⟨result, e, hyields⟩ := hwaits
    cases other with
    | answer channel id owner =>
      refine ⟨fun a ha => (by cases ha), fun failure hf => .inr ?_⟩
      exact ⟨(Except.error.inj hf).symm, List.mem_cons_self⟩
    | ending process owner => exact absurd (h.bare q _ hother hnone) (by simp [Purpose.expectation?])
    | _ => cases hyields

/-! ## Going on -/

/-- The task that runs is told what it relies on, or is over already. -/
def Told (Γ : Ledger) (f : Facts) (s : Scheduler Point Answer Hook) : Prop :=
  ∀ (number : Nat) (outcome : Outcome) (task : Tasks.Task Point) (purpose : Purpose)
    (below : Expectation), s.running = some (number, outcome) → s.tasks[number]? = some task →
    Γ.purposes[task.result]? = some purpose → purpose.expectation? = some below →
    task.stack = [] ∧ (s.outcome? task.result).isSome ∨
      Γ.Admits f task.result (expected below task.stack) outcome

/-- The task that runs goes on to its first point, which is taken off. -/
theorem pop (h : Books counter none Γ f s) {number : Nat} {outcome : Outcome}
    {task : Tasks.Task Point} {point : Point} {rest : List Point}
    (hrunning : s.running = some (number, outcome)) (ht : s.tasks[number]? = some task)
    (hstack : task.stack = point :: rest) :
    Books counter (some task.result) Γ f
      { s with tasks := s.tasks.set number { task with stack := rest } } := by
  have hlt := (List.getElem?_eq_some_iff.1 ht).1
  obtain ⟨below, hpurpose, hsits, hflag, -⟩ := h.tasks number task ht
  obtain ⟨same, hsame, hwaiting, hbegun⟩ := h.running number outcome hrunning
  rw [ht] at hsame
  obtain rfl := Option.some.inj hsame
  rw [hstack] at hsits
  refine h.setTask s.running ht rfl
    ⟨below, hpurpose, hsits.2, hflag, fun hnot => absurd hrunning (hnot outcome)⟩
    (fun hnot => absurd hrunning (hnot outcome)) (fun _ _ _ hr => hr) ?_ ?_
  · intro other outcome' hrunning'
    rw [hrunning] at hrunning'
    cases hrunning'
    exact .inr ⟨rfl, hwaiting, hbegun⟩
  · intro result hresult
    exact ⟨number, outcome, _, hrunning, List.getElem?_set_self hlt, Option.some.inj hresult,
      hsits.calm⟩

/-- Who is told what it relies on is told so when more is known. -/
theorem Told.grow (h : Told Γ f s) (hgrow : f.Grow f') : Told Γ f' s :=
  fun number outcome task purpose below hrunning ht hpurpose hbelow =>
    (h number outcome task purpose below hrunning ht hpurpose hbelow).imp_right
      (·.mono (.refl : Γ.Extends none Γ) hgrow)

/-- What a task is for. -/
theorem below_unique {task : Tasks.Task Point} {below' : Expectation} {rests : Prop}
    (h : Γ.Keeps counter rests task below) {purpose : Purpose}
    (hpurpose : Γ.purposes[task.result]? = some purpose)
    (hbelow : purpose.expectation? = some below') : below' = below := by
  obtain ⟨other, hother, hexpects⟩ := h.purpose
  rw [hpurpose] at hother
  rw [← Option.some.inj hother, hbelow] at hexpects
  exact Option.some.inj hexpects

/-- A scheduler in which one task runs on is told what it relies on. -/
theorem told_setTask {number : Nat} {task task' : Tasks.Task Point} {rests : Prop}
    (ht : s.tasks[number]? = some task) (hkeeps : Γ.Keeps counter rests task' below)
    (hadmits : task'.stack = [] ∧ (s.outcome? task'.result).isSome ∨
      Γ.Admits f task'.result (expected below task'.stack) outcome) :
    Told Γ f { s with tasks := s.tasks.set number task', running := some (number, outcome) } := by
  intro other outcome' moved purpose below' hrunning hmoved hpurpose hbelow
  obtain ⟨rfl, rfl⟩ := Prod.mk.inj (Option.some.inj hrunning)
  rw [show (s.tasks.set number task')[number]? = some task' from
    List.getElem?_set_self (List.getElem?_eq_some_iff.1 ht).1] at hmoved
  obtain rfl := Option.some.inj hmoved
  rw [below_unique hkeeps hpurpose hbelow]
  exact hadmits

/-- A task that has acted runs on at further points. -/
theorem runs_on (h : Books counter owner Γ f s) {number : Nat} {outcome : Outcome}
    {task : Tasks.Task Point} {rests : Prop} (hrunning : s.running = some (number, outcome))
    (ht : s.tasks[number]? = some task) (hkeeps : Γ.Keeps counter rests task below) (outcome' : Outcome)
    (front : List Point) (hsits : Γ.Sits counter task.result (expected below task.stack) front)
    (hadmits : Γ.Admits f task.result (expected (expected below task.stack) front) outcome') :
    Books counter none Γ f { s with
        tasks := s.tasks.set number { task with stack := front ++ task.stack }
        running := some (number, outcome') } ∧
      Told Γ f { s with
        tasks := s.tasks.set number { task with stack := front ++ task.stack }
        running := some (number, outcome') } := by
  obtain ⟨same, hsame, hwaiting, hbegun⟩ := h.running number outcome hrunning
  obtain rfl := Option.some.inj (ht.symm.trans hsame)
  have hkeeps' : Γ.Keeps counter (∀ outcome, some (number, outcome') ≠ some (number, outcome))
      { task with stack := front ++ task.stack } below :=
    ⟨hkeeps.purpose, Ledger.sits_append.2 ⟨hsits, hkeeps.sits⟩, hkeeps.interrupted,
      fun hnot => absurd rfl (hnot outcome')⟩
  refine ⟨h.setTask (some (number, outcome')) ht rfl ⟨below, hkeeps'⟩
    (fun hnot => absurd rfl (hnot outcome')) ?_ ?_
    fun _ howner => (by cases howner), told_setTask ht hkeeps' (.inr ?_)⟩
  · intro other outcome'' hne hother
    rw [hrunning] at hother
    cases hother
    exact absurd rfl hne
  · intro other outcome'' hother
    cases hother
    exact .inr ⟨rfl, hwaiting, hbegun⟩
  · show Γ.Admits f task.result (expected below (front ++ task.stack)) outcome'
    rw [expected_append]
    exact hadmits

/-- A task that has acted waits for a promise and will go on at further points. -/
theorem waits_for (h : Books counter owner Γ f s) {number q : Nat} {outcome : Outcome}
    {task : Tasks.Task Point} {rests : Prop} (hrunning : s.running = some (number, outcome))
    (ht : s.tasks[number]? = some task) (hkeeps : Γ.Keeps counter rests task below) (front : List Point)
    (hsits : Γ.Sits counter task.result (expected below task.stack) front)
    (hfeeds : Γ.Feeds task.result q (expected (expected below task.stack) front)) :
    Books counter none Γ f { s with
      tasks := s.tasks.set number { task with stack := front ++ task.stack, waiting := some q }
      running := none } := by
  obtain ⟨same, hsame, -, hbegun⟩ := h.running number outcome hrunning
  obtain rfl := Option.some.inj (ht.symm.trans hsame)
  refine h.setTask none ht rfl ⟨below, hkeeps.purpose, Ledger.sits_append.2 ⟨hsits, hkeeps.sits⟩,
    hkeeps.interrupted, fun _ => ⟨?_, fun hnone => (by cases hnone)⟩⟩
    (fun _ _ hnone => (by cases hnone)) ?_ (fun _ _ hnone => (by cases hnone)) fun _ howner => (by cases howner)
  · intro other hother
    cases hother
    refine ⟨?_, hbegun⟩
    show Γ.Feeds task.result q (expected below (front ++ task.stack))
    rw [expected_append]
    exact hfeeds
  · intro other outcome'' hne hother
    rw [hrunning] at hother
    cases hother
    exact absurd rfl hne

/-- A task that has acted goes on as told, or waits. -/
theorem proceed (h : Books counter owner Γ f s) {number : Nat} {outcome : Outcome}
    {task : Tasks.Task Point} {rests : Prop} {next : Next} (hrunning : s.running = some (number, outcome))
    (ht : s.tasks[number]? = some task) (hkeeps : Γ.Keeps counter rests task below)
    (hheard : ∀ q, (s.outcome? q).isSome → f.heard q)
    (hleads : Γ.Leads f counter task.result (expected below task.stack) next) :
    Books counter none Γ f (s.proceed number next) ∧ Told Γ f (s.proceed number next) := by
  rcases s.proceed_cases ht next with ⟨outcome', front, hnext, heq⟩ | ⟨q, front, rfl, -, heq⟩ <;> rw [heq]
  · rcases hnext with rfl | ⟨q, rfl, hsettled⟩
    · exact h.runs_on hrunning ht hkeeps outcome' front hleads.1 hleads.2
    · obtain ⟨hsits, hfeeds⟩ := hleads
      exact h.runs_on hrunning ht hkeeps outcome' front hsits
        (hfeeds.admits (hheard q (Option.isSome_of_eq_some hsettled)) fun purpose hpurpose =>
          h.outcomes q purpose outcome' hpurpose hsettled)
  · obtain ⟨hsits, hfeeds⟩ := hleads
    refine ⟨(h.waits_for hrunning ht hkeeps front hsits hfeeds).observe q trivial, ?_⟩
    intro other outcome' moved purpose below' hother
    rw [(Scheduler.observe_same _ _ _).1] at hother
    cases hother

/-- A task that is given up takes it. -/
theorem admits_cancelled (h : Books counter owner Γ f s) {task : Tasks.Task Point} {rests : Prop}
    (hkeeps : Γ.Keeps counter rests task below) (hrests : Γ.Rests below task)
    (hinterrupted : task.interrupted = true) :
    task.woken.stack = [] ∧ (s.outcome? task.result).isSome ∨
      Γ.Admits f task.result (expected below task.woken.stack) (.error .cancelled) := by
  have hresult := hkeeps.interrupted hinterrupted
  obtain ⟨purpose, hpurpose, hbelow⟩ := hkeeps.purpose
  obtain ⟨dropped, hdropped, other, hdroppable⟩ := h.dropped _ hresult
  rw [hpurpose] at hdropped
  obtain rfl := Option.some.inj hdropped
  have hlenient := lenient_of_isDroppable hdroppable hbelow
  -- A lenient point takes a cancellation as it takes any failure.
  have hadmits : ∀ e : Expectation, e.IsLenient → Γ.Admits f task.result e (.error .cancelled) := by
    intro e he
    cases e with
    | idle => trivial
    | exit process =>
      exact ⟨fun a ha => (by cases ha), fun failure hf => ⟨(Except.error.inj hf).symm, hresult⟩⟩
    | gone process => exact fun a ha => (by cases ha)
    | _ => cases he
  cases hbegun : task.begun with
  | false =>
    have hnil : task.woken.stack = [] := by simp [Tasks.Task.woken, hinterrupted, hbegun]
    rw [hnil]
    exact .inr (hadmits below hlenient)
  | true =>
    rw [task.stack_woken (.inr hbegun)]
    rcases hkeeps.sits.lenient hlenient with hlead | hlead
    · exact .inr (hadmits _ hlead)
    · -- a task that has begun is not at its start
      exfalso
      cases hwaiting : task.waiting with
      | none =>
        rcases hrests.fresh hwaiting with hnil | ⟨hnot, -⟩
        · rw [hnil] at hlead
          rw [show below = .beginning from hlead] at hlenient
          cases hlenient
        · rw [hbegun] at hnot
          cases hnot
      | some q =>
        obtain ⟨⟨fed, hfed, -, hfeeds⟩, -⟩ := hrests.feeds q hwaiting
        rw [hlead] at hfeeds
        cases fed <;> simp [Purpose.Feeds] at hfeeds

/-- A task that waited goes on, or one that was given up ends. -/
theorem resume (h : Books counter none Γ f s) (hheard : ∀ q, (s.outcome? q).isSome → f.heard q)
    (hidle : s.running = none) (number : Nat) :
    Books counter none Γ f (s.resume number) ∧ Told Γ f (s.resume number) := by
  have hsilent : Told Γ f s := fun other outcome _ _ _ hrunning => by
    rw [hidle] at hrunning
    cases hrunning
  rcases s.resume_eq_or number with heq | ⟨task, outcome, ht, hnews, heq⟩ <;> rw [heq]
  · exact ⟨h, hsilent⟩
  obtain ⟨below, hkeeps⟩ := h.tasks number task ht
  have hidles : ∀ outcome, s.running ≠ some (number, outcome) := by
    intro outcome hrunning
    rw [hidle] at hrunning
    cases hrunning
  have hrests := hkeeps.rests hidles
  let outcome' : Outcome := if task.interrupted then .error .cancelled else outcome
  have hkeeps' : Γ.Keeps counter (∀ outcome, some (number, outcome') ≠ some (number, outcome))
      task.woken below := by
    refine ⟨hkeeps.purpose, ?_, fun hflag => (by cases hflag), fun hnot => absurd rfl (hnot outcome')⟩
    show Γ.Sits counter task.result below (if task.interrupted && !task.begun then [] else task.stack)
    split
    · trivial
    · exact hkeeps.sits
  refine ⟨h.setTask (some (number, outcome')) ht rfl ⟨below, hkeeps'⟩
    (fun hnot => absurd rfl (hnot outcome')) (fun other outcome'' hne hother => ?_) ?_
    (fun _ howner => (by cases howner)), told_setTask ht hkeeps' ?_⟩
  · rw [hidle] at hother
    cases hother
  · intro other outcome'' hother
    cases hother
    exact .inr ⟨rfl, rfl, rfl⟩
  · -- who was given up is told so; anyone else starts, or is told what it waited for
    cases hinterrupted : task.interrupted with
    | true => exact h.admits_cancelled hkeeps hrests hinterrupted
    | false =>
      rw [if_neg Bool.false_ne_true, task.stack_woken (.inl hinterrupted)]
      rcases Scheduler.news?_eq_some hnews with ⟨hwaiting, hok⟩ | ⟨q, hwaiting, hsettled⟩
      · rcases hrests.fresh hwaiting with hnil | ⟨-, activity, hstart⟩
        · exact .inl ⟨hnil, h.finished number task ht hidles hnil hwaiting⟩
        · rw [hstart, hok]
          exact .inr ⟨_, rfl⟩
      · exact .inr ((hrests.feeds q hwaiting).1.admits
          (hheard q (Option.isSome_of_eq_some hsettled)) fun purpose hpurpose =>
            h.outcomes q purpose outcome hpurpose hsettled)

/-- An answer that is given up is settled at once: no task brings it about. -/
theorem isSome_giveUp (h : Books counter owner Γ f s) {q channel id asker : Nat}
    (hanswer : Γ.purposes[q]? = some (.answer channel id asker)) :
    ((s.giveUp q).outcome? q).isSome := by
  have hlt : q < s.promises.length := by
    rw [← h.length]
    exact (List.getElem?_eq_some_iff.1 hanswer).1
  rcases s.giveUp_cases q with ⟨number, hnumber, -⟩ | ⟨-, heq⟩
  · -- a task that brings it about would be there for something else
    obtain ⟨task, ht, rfl⟩ := h.owners q number hnumber
    obtain ⟨below, hkeeps⟩ := h.tasks number task ht
    obtain ⟨purpose, hpurpose, hbelow⟩ := hkeeps.purpose
    rw [hanswer] at hpurpose
    obtain rfl := Option.some.inj hpurpose
    cases hbelow
  · rw [heq]
    exact Scheduler.isSome_settle hlt

/-- What comes to be known of a promise does not depend on who runs. -/
theorem settle_running (s : Scheduler Point Answer Hook) (q : Nat) (outcome : Outcome)
    (running : Option (Nat × Outcome)) :
    { s with running := running }.settle q outcome = { s.settle q outcome with running := running } := by
  unfold Scheduler.settle
  cases s.promises[q]? with
  | none => rfl
  | some p =>
    simp only
    split <;> rfl

/-- A task that runs and has no points left is over. -/
theorem finish (h : Books counter none Γ f s) (htold : Told Γ f s) {number : Nat}
    {outcome : Outcome} {task : Tasks.Task Point} (hrunning : s.running = some (number, outcome))
    (ht : s.tasks[number]? = some task) (hstack : task.stack = []) :
    Books counter none Γ f ({ s with running := none }.settle task.result outcome) := by
  obtain ⟨below, hkeeps⟩ := h.tasks number task ht
  obtain ⟨purpose, hpurpose, hbelow⟩ := hkeeps.purpose
  have hlt : task.result < s.promises.length := by
    obtain ⟨p, hp, -⟩ := Option.bind_eq_some_iff.1 (h.results number task ht)
    exact (List.getElem?_eq_some_iff.1 hp).1
  -- the result may be what it is
  have hsettled : Books counter none Γ f (s.settle task.result outcome) := by
    rcases htold number outcome task purpose below hrunning ht hpurpose hbelow with ⟨-, hsome⟩ | hadmits
    · rw [Scheduler.settle_of_isSome hsome]
      exact h
    · rw [hstack] at hadmits
      refine h.settle fun other hother => ?_
      rw [show Γ.purposes[task.result]? = some other from hother] at hpurpose
      obtain rfl := Option.some.inj hpurpose
      cases other with
      | errand task => trivial
      | call => trivial
      | ending process owner =>
        cases hbelow
        exact hadmits
      | _ => cases hbelow
  obtain ⟨hsame, htasks⟩ := s.settle_same task.result outcome
  have ht' : (s.settle task.result outcome).tasks[number]? = some task := htasks ▸ ht
  have hset : (s.settle task.result outcome).tasks.set number task =
      (s.settle task.result outcome).tasks := Tasks.set_of_getElem? ht'
  obtain ⟨same, hsameTask, hwaiting, -⟩ := h.running number outcome hrunning
  rw [ht] at hsameTask
  obtain rfl := Option.some.inj hsameTask
  have hover : Books counter none Γ f _ := hsettled.setTask none ht' rfl ⟨below, hkeeps.purpose, hkeeps.sits, hkeeps.interrupted,
    fun _ => ⟨fun q hq => (by rw [hwaiting] at hq; cases hq), fun _ => .inl hstack⟩⟩
    (fun _ _ _ => Scheduler.isSome_settle hlt) (fun other outcome' hne hother => by
      rw [hsame, hrunning] at hother
      cases hother
      exact absurd rfl hne)
    (fun _ _ hnone => (by cases hnone)) fun _ howner => (by cases howner)
  rw [hset] at hover
  rw [settle_running]
  exact hover

end Books

end BasiliskServer.World
