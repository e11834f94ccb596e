import BasiliskServer.Proofs.World.Ledger.Tasks

/-!
# Notices come from settled promises

Some notices are caused by one promise only: a request is taken off its list when its answer is
known, and those who wait for a connection are told when it is known whether the connection has
become ready. `Posts` says that such a notice is queued only when its promise is settled, and that
nobody who waits for a connection is forgotten. Every elementary action of the scheduler keeps it
so.
-/

namespace BasiliskServer.World

open Tasks (Notice Scheduler)

/-- Whether a notice is caused by one promise only. -/
def isSourced : Notice Hook → Bool
  | .relay _ _ | .hook (.forget _ _) => true
  | _ => false

/-- A notice may be caused by the promise. -/
def Ledger.Sends (Γ : Ledger) (q : Nat) : Notice Hook → Prop
  | .relay source _ => q = source
  | .hook (.forget channel id) => ∃ owner, Γ.purposes[q]? = some (.answer channel id owner)
  | _ => True

/-- Notices come from settled promises, and those who wait for a connection are told, except for the
promises that are `due` to be settled. -/
structure Posts (due : List Nat) (Γ : Ledger) (s : Scheduler Point Answer Hook) : Prop where
  /-- What a promise causes may be caused by it. -/
  observers : ∀ (q : Nat) (p : Tasks.Promise Answer Hook), s.promises[q]? = some p →
    ∀ notice ∈ p.observers, Γ.Sends q notice
  /-- What is queued was caused by a settled promise. -/
  ready : ∀ notice ∈ s.ready, isSourced notice = true →
    ∃ q, Γ.Sends q notice ∧ (s.outcome? q).isSome
  /-- No timer causes it. -/
  timers : ∀ timer ∈ s.timers.items, isSourced timer.notice = false
  /-- Who waits for a connection is going to be told. -/
  shields : ∀ q source : Nat, Γ.purposes[q]? = some (.shield source) → q ∉ due →
    s.outcome? q = none → .relay source q ∈ s.ready ∨
      ∃ p, s.promises[source]? = some p ∧ p.outcome = none ∧ .relay source q ∈ p.observers
  /-- Who waits for a connection waits for nothing else. -/
  sources : ∀ q source : Nat, Γ.purposes[q]? = some (.shield source) →
    Γ.purposes[source]? = some .started

theorem Ledger.Sends.mono {Γ Γ' : Ledger} {owner : Option Nat} {q : Nat} {notice : Notice Hook}
    (h : Γ.Sends q notice) (hext : Γ.Extends owner Γ') : Γ'.Sends q notice := by
  cases notice with
  | hook hook =>
    cases hook with
    | forget channel id => exact Exists.imp (fun _ => hext.purposes _ _) h
    | _ => trivial
  | relay source target => exact h
  | _ => trivial

namespace Posts

variable {due due' : List Nat} {Γ : Ledger} {s s' : Scheduler Point Answer Hook}
  {outcome : Outcome}

/-- Promises and what is queued are the same. -/
theorem of_same (h : Posts due Γ s) (hpromises : s'.promises = s.promises)
    (hready : s'.ready = s.ready)
    (htimers : ∀ timer ∈ s'.timers.items, timer ∈ s.timers.items) : Posts due Γ s' where
  observers := by rw [hpromises]; exact h.observers
  ready := by
    simp only [hready, Scheduler.outcome?, hpromises]
    exact h.ready
  timers := fun timer htimer => h.timers timer (htimers timer htimer)
  shields := by
    simp only [hready, Scheduler.outcome?, hpromises]
    exact h.shields
  sources := h.sources

/-- More is due to be settled. -/
theorem weaken (h : Posts due Γ s) (hsub : ∀ q ∈ due, q ∈ due') : Posts due' Γ s :=
  { h with
    shields := fun q source hq hdue => h.shields q source hq fun hmem => hdue (hsub q hmem) }

/-- Something is given up on paper. -/
theorem drop (h : Posts due Γ s) (q : Nat) : Posts due (Γ.drop q) s where
  observers := h.observers
  ready := h.ready
  timers := h.timers
  shields := h.shields
  sources := h.sources

/-! ## Promises -/

/-- A promise is added. If it is to tell whether a connection has become ready, this is due. -/
theorem append {p : Tasks.Promise Answer Hook} (h : Posts due Γ s)
    (hlength : Γ.purposes.length = s.promises.length) {purpose : Purpose}
    (hpurpose : ∀ source, purpose = .shield source →
      s.promises.length ∈ due ∧ Γ.purposes[source]? = some .started)
    (hobservers : p.observers = []) (hpromises : s'.promises = s.promises ++ [p])
    (hready : s'.ready = s.ready ∨ ∃ task, s'.ready = s.ready ++ [.wake task])
    (htimers : s'.timers = s.timers) : Posts due (Γ.add purpose) s' := by
  have hext : Γ.Extends none (Γ.add purpose) := Ledger.extends_add purpose
  have houtcome : ∀ {q : Nat}, (s.outcome? q).isSome → (s'.outcome? q).isSome := by
    intro q hq
    rw [Scheduler.outcome?, hpromises]
    exact Tasks.isSome_bind_append hq _
  -- what the new promise is for
  have hshield : ∀ {q source : Nat}, (Γ.add purpose).purposes[q]? = some (.shield source) →
      Γ.purposes[q]? = some (.shield source) ∨
        q ∈ due ∧ Γ.purposes[source]? = some .started := by
    intro q source hq
    rcases Ledger.purposes_add_cases hq with hold | ⟨rfl, heq⟩
    · exact .inl hold
    · rw [hlength]
      exact .inr (hpurpose source heq.symm)
  refine ⟨?observers, ?ready, ?timers, ?shields, ?sources⟩
  case observers =>
    intro q p' hp' notice hnotice
    rw [hpromises] at hp'
    rcases Tasks.getElem?_concat_cases hp' with hold | ⟨-, rfl⟩
    · exact (h.observers q p' hold notice hnotice).mono hext
    · rw [hobservers] at hnotice
      exact absurd hnotice List.not_mem_nil
  case ready =>
    intro notice hnotice hsourced
    have hnotice : notice ∈ s.ready := by
      rcases hready with heq | ⟨task, heq⟩
      · rwa [heq] at hnotice
      · rw [heq] at hnotice
        rcases List.mem_append.1 hnotice with hnotice | hnew
        · exact hnotice
        · rw [List.mem_singleton.1 hnew] at hsourced
          cases hsourced
    obtain ⟨q, hsends, hsettled⟩ := h.ready notice hnotice hsourced
    exact ⟨q, hsends.mono hext, houtcome hsettled⟩
  case timers =>
    rw [htimers]
    exact h.timers
  case shields =>
    intro q source hq hdue hnone
    have hq := (hshield hq).resolve_right fun hnew => hdue hnew.1
    have hnone : s.outcome? q = none := by
      cases hsome : s.outcome? q with
      | none => rfl
      | some outcome =>
        have hsettled : (s'.outcome? q).isSome := houtcome (by rw [hsome]; rfl)
        rw [hnone] at hsettled
        cases hsettled
    rcases h.shields q source hq hdue hnone with hqueued | ⟨p', hp', hopen, hin⟩
    · rcases hready with heq | ⟨task, heq⟩ <;> rw [heq]
      · exact .inl hqueued
      · exact .inl (List.mem_append_left _ hqueued)
    · refine .inr ⟨p', ?_, hopen, hin⟩
      rw [hpromises]
      exact Tasks.getElem?_append_of_some hp' _
  case sources =>
    intro q source hq
    exact hext.purposes _ _ ((hshield hq).elim (h.sources q source) And.right)

theorem addPromise (h : Posts due Γ s) (hlength : Γ.purposes.length = s.promises.length)
    (missing : Nat) {purpose : Purpose} (hpurpose : ∀ source, purpose ≠ .shield source) :
    Posts due (Γ.add purpose) (s.addPromise missing).2 :=
  h.append hlength (fun source heq => absurd heq (hpurpose source)) rfl rfl (.inl rfl) rfl

theorem spawn (h : Posts due Γ s) (hlength : Γ.purposes.length = s.promises.length)
    (point : Point) {purpose : Purpose} (hpurpose : ∀ source, purpose ≠ .shield source) :
    Posts due (Γ.add purpose) (s.spawn point).2 :=
  h.append hlength (fun source heq => absurd heq (hpurpose source)) rfl rfl (.inr ⟨_, rfl⟩) rfl

/-- One promise was changed without being settled. -/
theorem of_promise {q : Nat} {p p' : Tasks.Promise Answer Hook} (h : Posts due Γ s)
    (halters : s.Alters s' q p p') (houtcome : p'.outcome = p.outcome) (hready : s'.ready = s.ready)
    (hobservers : ∀ notice ∈ p'.observers, notice ∈ p.observers ∨ Γ.Sends q notice)
    (hkept : ∀ notice ∈ p.observers, notice ∈ p'.observers) : Posts due Γ s' := by
  have hsame : ∀ other, s'.outcome? other = s.outcome? other := by
    intro other
    rw [halters.outcome?]
    split
    · rename_i heq
      rw [heq, halters.outcome?_of_self, houtcome]
    · rfl
  refine ⟨?observers, ?ready, ?timers, ?shields, h.sources⟩
  case observers =>
    intro other moved hmoved notice hnotice
    by_cases heq : q = other
    · subst heq
      obtain rfl := Option.some.inj (halters.self.symm.trans hmoved)
      exact (hobservers notice hnotice).elim (h.observers q p halters.promise notice) id
    · exact h.observers other moved ((halters.getElem?_of_ne heq).symm.trans hmoved) notice hnotice
  case ready =>
    simp only [hready, hsame]
    exact h.ready
  case timers =>
    rw [halters.timers]
    exact h.timers
  case shields =>
    intro target source htarget hdue hnone
    rw [hsame] at hnone
    rw [hready]
    refine (h.shields target source htarget hdue hnone).imp id ?_
    rintro ⟨moved, hmoved, hopen, hin⟩
    by_cases heq : q = source
    · subst heq
      obtain rfl := Option.some.inj (halters.promise.symm.trans hmoved)
      exact ⟨p', halters.self, houtcome.trans hopen, hkept _ hin⟩
    · exact ⟨moved, (halters.getElem?_of_ne heq).trans hmoved, hopen, hin⟩

/-- A promise is settled that was due to be. -/
theorem settle {q : Nat} (h : Posts (q :: due) Γ s) (hq : q < s.promises.length) :
    Posts due Γ (s.settle q outcome) := by
  have hsettled : ((s.settle q outcome).outcome? q).isSome := Scheduler.isSome_settle hq
  rcases s.settle_cases q outcome with ⟨hsame, -⟩ | ⟨p, hopen, halters, hready⟩
  · -- it was settled already
    rw [hsame] at hsettled ⊢
    refine { h with shields := fun other source hother hdue hnone => ?_ }
    refine h.shields other source hother (fun hmem => ?_) hnone
    rcases List.mem_cons.1 hmem with rfl | hmem
    · rw [hnone] at hsettled
      cases hsettled
    · exact hdue hmem
  · refine ⟨?observers, ?ready, ?timers, ?shields, h.sources⟩
    case observers =>
      intro other moved hmoved notice hnotice
      by_cases heq : q = other
      · subst heq
        obtain rfl := Option.some.inj (halters.self.symm.trans hmoved)
        exact absurd hnotice List.not_mem_nil
      · exact h.observers other moved ((halters.getElem?_of_ne heq).symm.trans hmoved) notice hnotice
    case ready =>
      intro notice hnotice hsourced
      rw [hready] at hnotice
      rcases List.mem_append.1 hnotice with hold | hobserver
      · obtain ⟨source, hsends, hsome⟩ := h.ready notice hold hsourced
        obtain ⟨known, hknown⟩ := Option.isSome_iff_exists.1 hsome
        exact ⟨source, hsends, Option.isSome_of_eq_some (Scheduler.outcome?_settle hknown)⟩
      · exact ⟨q, h.observers q p halters.promise notice hobserver, hsettled⟩
    case timers =>
      rw [halters.timers]
      exact h.timers
    -- whatever waits for another promise does so still; what waits for this one is queued now
    case shields =>
      intro other source htarget hdue hnone
      have hne : other ≠ q := by
        rintro rfl
        rw [hnone] at hsettled
        cases hsettled
      rw [halters.outcome?, if_neg hne] at hnone
      have hdue : other ∉ q :: due := fun hmem => hdue ((List.mem_cons.1 hmem).resolve_left hne)
      rw [hready]
      rcases h.shields other source htarget hdue hnone with hqueued | ⟨moved, hmoved, hunknown, hin⟩
      · exact .inl (List.mem_append_left _ hqueued)
      · by_cases heq : q = source
        · -- whoever waits for it is told
          subst heq
          obtain rfl := Option.some.inj (halters.promise.symm.trans hmoved)
          exact .inl (List.mem_append_right _ hin)
        · exact .inr ⟨moved, (halters.getElem?_of_ne heq).trans hmoved, hunknown, hin⟩

/-- A promise that nobody waits for is settled. -/
theorem settle_any (h : Posts due Γ s) (q : Nat) : Posts due Γ (s.settle q outcome) := by
  by_cases hq : q < s.promises.length
  · exact (h.weaken fun _ hmem => List.mem_cons_of_mem _ hmem).settle hq
  · rw [Scheduler.settle_of_length_le (Nat.le_of_not_lt hq)]
    exact h

/-- A promise is observed with a notice that it may cause. -/
theorem observe (h : Posts due Γ s) {q : Nat} {notice : Notice Hook} (hsends : Γ.Sends q notice) :
    Posts due Γ (s.observe q notice) := by
  rcases s.observe_cases q notice with ⟨-, hsame⟩ | ⟨hsome, hqueued⟩ | ⟨p, -, halters, hready⟩
  · rw [hsame]
    exact h
  · rw [hqueued]
    refine { h with ready := ?_, shields := ?_ }
    · intro other hother hsourced
      rcases List.mem_append.1 hother with hother | hnew
      · exact h.ready other hother hsourced
      · rw [List.mem_singleton.1 hnew]
        exact ⟨q, hsends, hsome⟩
    · exact fun other source hother hdue hnone =>
        (h.shields other source hother hdue hnone).imp (List.mem_append_left _) id
  · refine h.of_promise halters rfl hready (fun other hother => ?_)
      fun other hother => List.mem_append_left _ hother
    exact (List.mem_append.1 hother).imp id fun hnew => by rwa [List.mem_singleton.1 hnew]

/-- A promise that tells whether a connection has become ready observes the one that does. -/
theorem shield (h : Posts due Γ s) (hlength : Γ.purposes.length = s.promises.length)
    {source : Nat} (hsource : Γ.purposes[source]? = some .started) :
    Posts due (Γ.add (.shield source))
      ((s.addPromise 0).2.observe source (.relay source s.promises.length)) := by
  have hadded : Posts (s.promises.length :: due) (Γ.add (.shield source)) (s.addPromise 0).2 := by
    refine (h.weaken fun _ hmem => List.mem_cons_of_mem _ hmem).append hlength ?_ rfl rfl (.inl rfl) rfl
    intro other heq
    obtain rfl := Purpose.shield.inj heq
    exact ⟨List.mem_cons_self, hsource⟩
  have hsends : (Γ.add (.shield source)).Sends source (.relay source s.promises.length) := rfl
  have hobserved := hadded.observe hsends
  have hlt : source < s.promises.length := by
    rw [← hlength]
    exact (List.getElem?_eq_some_iff.1 hsource).1
  -- the notice is where it belongs
  have htold : Notice.relay source s.promises.length ∈
        ((s.addPromise 0).2.observe source (.relay source s.promises.length)).ready ∨
      ∃ p, ((s.addPromise 0).2.observe source
          (.relay source s.promises.length)).promises[source]? = some p ∧
        p.outcome = none ∧ Notice.relay source s.promises.length ∈ p.observers := by
    rcases (s.addPromise 0).2.observe_cases source (.relay source s.promises.length) with
      ⟨hnone, -⟩ | ⟨-, hqueued⟩ | ⟨p, hopen, halters, -⟩
    · rw [List.getElem?_eq_none_iff, Scheduler.addPromise, List.length_append] at hnone
      omega
    · rw [hqueued]
      exact .inl (List.mem_append_right _ (List.mem_singleton.2 rfl))
    · exact .inr ⟨_, halters.self, hopen, List.mem_append_right _ (List.mem_singleton.2 rfl)⟩
  refine { hobserved with shields := fun q other hq hdue hnone => ?_ }
  by_cases hnew : q = s.promises.length
  · subst hnew
    rw [← hlength, Ledger.purposes_add_length] at hq
    obtain rfl := Purpose.shield.inj (Option.some.inj hq)
    exact htold
  · exact hobserved.shields q other hq
      (fun hmem => hdue ((List.mem_cons.1 hmem).resolve_left hnew)) hnone

theorem countDown (h : Posts due Γ s) (q : Nat) : Posts due Γ (s.countDown q) := by
  rcases s.countDown_cases q with hsame | ⟨p, counted, halters, hready, heq⟩
  · rw [hsame]
    exact h
  have hcounted : Posts due Γ counted :=
    h.of_promise halters rfl hready (fun _ hnotice => .inl hnotice) fun _ hnotice => hnotice
  rcases heq with heq | heq <;> rw [heq]
  · exact hcounted
  · exact hcounted.settle_any q

/-! ## Timers and time -/

theorem addTimer (h : Posts due Γ s) (delay : Nat) {notice : Notice Hook}
    (hnotice : isSourced notice = false) : Posts due Γ (s.addTimer delay notice).2 :=
  { h with
    timers := by
      intro timer htimer
      rcases Tasks.Heap.mem_of_mem_push htimer with hold | rfl
      · exact h.timers timer hold
      · exact hnotice }

theorem stopTimer (h : Posts due Γ s) (number : Nat) : Posts due Γ (s.stopTimer number) :=
  { h with
    timers := by
      intro timer htimer
      simp only [Scheduler.stopTimer, Tasks.Heap.map, List.mem_map] at htimer
      obtain ⟨old, hold, rfl⟩ := htimer
      rw [← h.timers old hold]
      split <;> rfl }

theorem dropStopped (h : Posts due Γ s) : Posts due Γ s.dropStopped := by
  obtain ⟨-, -, hpromises, hready, htimers⟩ := Scheduler.dropStopped_same s
  exact h.of_same hpromises hready htimers

/-- The promise that a notice is about to settle, if nothing else would. -/
def dueAfter (due : List Nat) : Notice Hook → List Nat
  | .relay _ target => target :: due
  | _ => due

/-- What is next in the queue is taken; whoever it tells of a connection is due to be told. -/
theorem takeNotice (h : Posts due Γ s) {notice : Notice Hook}
    (htake : s.takeNotice = some (notice, s')) :
    Posts (dueAfter due notice) Γ s' ∧
      (isSourced notice = true → ∃ q, Γ.Sends q notice ∧ (s'.outcome? q).isSome) := by
  -- the rest of the queue is as it was
  have htaken : ∀ {rest : List (Notice Hook)} {s₀ : Scheduler Point Answer Hook} (turn : Nat),
      Posts due Γ s₀ → s₀.ready = notice :: rest →
      Posts (dueAfter due notice) Γ { s₀ with ready := rest, turn := turn } ∧
        (isSourced notice = true → ∃ q, Γ.Sends q notice ∧ (s₀.outcome? q).isSome) := by
    intro rest s₀ turn h₀ hqueue
    refine ⟨{ h₀ with ready := ?_, shields := ?_ }, h₀.ready notice (by simp [hqueue])⟩
    · exact fun other hother => h₀.ready other (by simp [hqueue, hother])
    · intro q source hq hdue hnone
      have hdue₀ : q ∉ due := by
        intro hmem
        cases notice with
        | relay _ target => exact hdue (List.mem_cons_of_mem _ hmem)
        | _ => exact hdue hmem
      refine (h₀.shields q source hq hdue₀ hnone).imp (fun hmem => ?_) id
      rw [hqueue] at hmem
      rcases List.mem_cons.1 hmem with heq | hmem
      · rw [← heq] at hdue
        exact absurd List.mem_cons_self hdue
      · exact hmem
  obtain ⟨rest, kept, turn, hqueue, rfl | rfl, rfl⟩ := Scheduler.takeNotice_cases htake
  · exact htaken _ h hqueue
  · obtain ⟨-, -, -, hready, -⟩ := Scheduler.dropStopped_same s
    exact htaken _ h.dropStopped (hready.trans hqueue)

/-- Time moves on. -/
theorem moveTo (h : Posts due Γ s) (moment : Nat) : Posts due Γ (s.moveTo moment) := by
  have hdropped := h.dropStopped
  have hpop := Tasks.Heap.mem_of_mem_popWhile Tasks.Timer.due (·.due ≤ moment) s.dropStopped.timers
  refine { hdropped with ready := ?_, timers := ?_, shields := ?_ }
  · intro notice hnotice hsourced
    rcases List.mem_append.1 hnotice with hnotice | hdue
    · exact hdropped.ready notice hnotice hsourced
    · obtain ⟨timer, htimer, rfl⟩ := List.mem_map.1 hdue
      rw [hdropped.timers timer (hpop.1 timer (List.mem_filter.1 htimer).1)] at hsourced
      cases hsourced
  · exact fun timer htimer => hdropped.timers timer (hpop.2 timer htimer)
  · exact fun q source hq hdue hnone =>
      (hdropped.shields q source hq hdue hnone).imp (List.mem_append_left _) id

/-! ## Tasks -/

theorem interrupt (h : Posts due Γ s) (task : Nat) : Posts due Γ (s.interrupt task) := by
  rcases s.interrupt_cases task with heq | ⟨t, -, heq | ⟨q, -, heq⟩⟩ <;> rw [heq]
  · exact h
  · exact h.of_same rfl rfl fun _ ht => ht
  · exact h.settle_any q

theorem giveUp (h : Posts due Γ s) (q : Nat) : Posts due Γ (s.giveUp q) := by
  rcases s.giveUp_cases q with ⟨task, -, heq⟩ | ⟨-, heq⟩ <;> rw [heq]
  · exact h.interrupt task
  · exact h.settle_any q

theorem resume (h : Posts due Γ s) (task : Nat) : Posts due Γ (s.resume task) := by
  rcases s.resume_cases task with heq | ⟨_, _, _, -, -, -, heq, -⟩ <;> rw [heq]
  · exact h
  · exact h.of_same rfl rfl fun _ ht => ht

theorem proceed (h : Posts due Γ s) (task : Nat) (next : Next) :
    Posts due Γ (s.proceed task next) := by
  cases ht : s.tasks[task]? with
  | none =>
    rw [Scheduler.proceed_of_none ht]
    exact h.of_same rfl rfl fun _ ht => ht
  | some t =>
    rcases s.proceed_cases ht next with ⟨_, _, -, heq⟩ | ⟨q, front, -, -, heq⟩ <;> rw [heq]
    · exact h.of_same rfl rfl fun _ ht => ht
    · have hwake : Γ.Sends q (.wake task) := trivial
      refine Posts.observe ?_ hwake
      exact h.of_same rfl rfl fun _ ht => ht

end Posts

end BasiliskServer.World
