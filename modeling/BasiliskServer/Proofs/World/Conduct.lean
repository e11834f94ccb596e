import BasiliskServer.Proofs.World.Keeping

/-!
# Every action leaves everything in order

Reading and writing, asking and answering, starting and ending: whatever the server does with
companion processes leaves everything as the ledger says. Actions that settle only what is theirs to
settle are `Tidy`; activities that wait also go on as is expected of them (`Pursues`).
-/

namespace BasiliskServer.World

open Json (Value Fields)
open Tasks (Notice Scheduler)

variable {Γ Γ' : Ledger} {counter : Counter} {owner dropper : Option Nat} {result : Nat}
  {below e : Expectation} {outcome : Outcome} {w w' : World}

/-! ## Changes that concern no promise -/

theorem Moves.of_kept (h : w.facts.Grow w'.facts ∧ Kept counter owner [] Γ w')
    (htasks : w'.tasks = w.tasks) : Moves counter owner dropper Γ w Γ w' :=
  ⟨.refl, h.1, htasks ▸ .refl, h.2⟩

theorem note_tidy (change : Record → Record) : Tidy (note change) :=
  fun _ _ Γ _ h => ⟨Γ, ⟨.refl, .refl _, .refl, { h with }⟩, trivial⟩

theorem updateSession_tidy (change : Session → Session) : Tidy (updateSession change) :=
  fun _ _ Γ _ h => ⟨Γ, ⟨.refl, .refl _, .refl, { h with }⟩, trivial⟩

theorem updateProcess_moves (h : Kept counter owner [] Γ w) (number : Nat)
    {change : Process → Process}
    (hchange : ∀ p, w.processes[number]? = some p → Γ.Serves number p →
      (p.code.isSome → (change p).code.isSome) ∧ Γ.Serves number (change p)) :
    Moves counter owner dropper Γ w Γ ((updateProcess number change).run w).2 :=
  .of_kept (h.setProcess number hchange) rfl

/-- A process is changed in a way that concerns no promise. -/
theorem updateProcess_tidy (number : Nat) {change : Process → Process}
    (hchange : ∀ p, (p.code.isSome → (change p).code.isSome) ∧
      (change p).stdout.waiter = p.stdout.waiter ∧ (change p).stderr.waiter = p.stderr.waiter ∧
      (change p).exitWaiters = p.exitWaiters) : Tidy (updateProcess number change) := by
  intro counter owner Γ w h
  refine .of_moves (updateProcess_moves h number fun p _ hserves => ?_) trivial
  obtain ⟨hcode, hstdout, hstderr, hexits⟩ := hchange p
  exact ⟨hcode, by rw [hstdout, hstderr]; exact hserves.readers, by rw [hexits]; exact hserves.exits⟩

/-! ## Programs -/

/-- Whoever waits for bytes is told. -/
theorem wakeReader_minds (h : Kept counter owner [] Γ w) {reader : Reader}
    (hreader : ∀ q : Nat, reader.waiter = some q → Γ.purposes[q]? = some .idle) :
    Minds counter owner dropper Γ w (fun _ _ _ => True) (wakeReader reader) := by
  unfold wakeReader
  cases hwaiter : reader.waiter with
  | none => exact .pure h trivial
  | some q => exact .of_moves (h.settle_of (hreader q hwaiter) trivial) trivial

theorem writeOutput_tidy (number : Nat) (bytes : List UInt8) : Tidy (writeOutput number bytes) := by
  refine .of_get fun counter owner Γ w h => ?_
  cases hp : w.processes[number]? with
  | none => exact .pure h trivial
  | some p =>
    simp only
    split
    · refine .after (updateProcess_moves h number fun p _ hserves => ⟨id, ⟨fun q hq => ?_,
        hserves.exits⟩⟩) fun h' => wakeReader_minds h' fun q hq =>
        (h.processes number p hp).readers q (.inl hq)
      exact hserves.readers q (hq.imp (fun hq => (by cases hq)) id)
    · exact .pure h trivial

theorem writeErrors_tidy (number : Nat) (bytes : List UInt8) : Tidy (writeErrors number bytes) := by
  refine .of_get fun counter owner Γ w h => ?_
  cases hp : w.processes[number]? with
  | none => exact .pure h trivial
  | some p =>
    simp only
    split
    · refine .after (updateProcess_moves h number fun p _ hserves => ⟨id, ⟨fun q hq => ?_,
        hserves.exits⟩⟩) fun h' => wakeReader_minds h' fun q hq =>
        (h.processes number p hp).readers q (.inr hq)
      exact hserves.readers q (hq.imp id fun hq => (by cases hq))
    · exact .pure h trivial

theorem breakOutput_tidy (number : Nat) (text : String) : Tidy (breakOutput number text) := by
  refine .of_get fun counter owner Γ w h => ?_
  cases hp : w.processes[number]? with
  | none => exact .pure h trivial
  | some p =>
    refine .after (updateProcess_moves h number fun p _ hserves => ⟨id, ⟨fun q hq => ?_,
      hserves.exits⟩⟩) fun h' => wakeReader_minds h' fun q hq =>
      (h.processes number p hp).readers q (.inl hq)
    exact hserves.readers q (hq.imp (fun hq => (by cases hq)) id)

/-- Those who wait for the end of a process that has ended are told. -/
theorem tellEnd_minds {number : Nat} {waiters : List Nat} (h : Kept counter owner [] Γ w)
    (hended : w.facts.ended number)
    (hwaiters : ∀ q ∈ waiters, ∃ result, Γ.purposes[q]? = some (.exit number result)) :
    Minds counter owner dropper Γ w (fun _ _ _ => True)
      (waiters.forM fun waiter => settle waiter (.ok .unit)) := by
  induction waiters generalizing Γ w with
  | nil => exact .pure h trivial
  | cons q rest ih =>
    obtain ⟨result, hresult⟩ := hwaiters q List.mem_cons_self
    have hpermits : Γ.Permits w.facts q (.exit number result) (.ok .unit) :=
      ⟨fun _ _ => hended, fun failure hf => (by cases hf)⟩
    exact .after (h.settle_of hresult hpermits) fun h' =>
      ih h' hended fun other hother => hwaiters other (List.mem_cons_of_mem _ hother)

theorem ended_updateProcess {number : Nat} {p : Process} (hp : w.processes[number]? = some p)
    {change : Process → Process} (hcode : (change p).code.isSome) :
    ((updateProcess number change).run w).2.facts.ended number := by
  show (((w.processes.modify number change)[number]?).bind (·.code)).isSome
  rw [List.getElem?_modify]
  simpa [hp] using hcode

/-- A process that is made to end has ended, if there is one. -/
theorem quit_minds (h : Kept counter owner [] Γ w) (number : Nat) (code : Int) :
    Minds counter owner dropper Γ w (fun _ w' _ => w.facts.known number → w'.facts.ended number)
      (quit number code) := by
  refine .get_bind ?_
  cases hp : w.processes[number]? with
  | none =>
    refine .pure h fun hknown => ?_
    rw [List.getElem?_eq_none_iff] at hp
    exact absurd hknown (Nat.not_lt.2 hp)
  | some p =>
    simp only
    split
    · have hserves := h.processes number p hp
      -- The end is recorded first, so whoever is told of it later is told what is so.
      refine .after (updateProcess_moves h number fun p _ _ =>
        ⟨fun _ => rfl, ⟨fun q hq => (by rcases hq with hq | hq <;> cases hq),
          fun q hq => absurd hq List.not_mem_nil⟩⟩) fun h₁ => ?_
      refine Minds.bind (wakeReader_minds h₁ fun q hq => hserves.readers q (.inl hq))
        fun Γ₂ w₂ _ _ hmoves₂ _ => ?_
      refine Minds.bind (wakeReader_minds hmoves₂.kept fun q hq =>
        hmoves₂.ledger.purposes _ _ (hserves.readers q (.inr hq))) fun Γ₃ w₃ _ _ hmoves₃ _ => ?_
      have hmoves := hmoves₂.trans hmoves₃
      have hended := hmoves.grows.ended number (ended_updateProcess hp rfl)
      refine (tellEnd_minds hmoves.kept hended fun q hq => ?_).imp
        fun Γ' w' _ hmoves' _ _ => hmoves'.grows.ended _ hended
      exact (hserves.exits q hq).imp fun _ => hmoves.ledger.purposes _ _
    · rename_i hcode
      refine .pure h fun _ => ?_
      show ((w.processes[number]?).bind (·.code)).isSome
      rw [hp]
      simpa [Option.isNone_iff_eq_none, Option.isSome_iff_ne_none] using hcode

theorem quit_tidy (number : Nat) (code : Int) : Tidy (quit number code) :=
  fun _ _ _ _ h => (quit_minds h number code).imp fun _ _ _ _ _ => trivial

theorem timer_tidy (delay : Nat) {notice : Notice Hook} (htarget : notice.target? = none)
    (hsourced : isSourced notice = false) : Tidy (timer delay notice) := by
  intro counter owner Γ w h
  refine .of_moves (h.timer delay ?_ hsourced) trivial
  cases notice with
  | wake task => trivial
  | hook hook => trivial
  | _ => cases htarget

theorem afterDelay_tidy (delay : Nat) {hook : Hook} {now : Act Unit} (hnow : Tidy now)
    (hsourced : isSourced (.hook hook) = false) : Tidy (afterDelay delay hook now) := by
  unfold afterDelay
  split
  · exact hnow
  · exact (timer_tidy delay rfl hsourced).seq fun _ => .pure ()

theorem say_tidy (number : Nat) (message : Fields) (delay : Nat) :
    Tidy (say number message delay) :=
  afterDelay_tidy delay (writeOutput_tidy _ _) rfl

theorem carryOut_tidy (number : Nat) (id : Value) (reply : Reply) :
    Tidy (carryOut number id reply) := by
  cases reply with
  | result value delay => exact say_tidy _ _ _
  | refusal error delay => exact say_tidy _ _ _
  | quit code delay => exact afterDelay_tidy delay (quit_tidy _ _) rfl
  | silence => exact .pure ()

theorem tellOnOpen_tidy (number : Nat) (script : CompanionScript) (method : String)
    (params : Value) : Tidy (tellOnOpen number script method params) := by
  unfold tellOnOpen
  split
  · refine (writeErrors_tidy _ _).seq fun _ => ?_
    cases script.problemsOnOpen with
    | none => exact .pure ()
    | some problems => exact say_tidy _ _ _
  · exact .pure ()

theorem receive_tidy (number : Nat) (message : Fields) : Tidy (receive number message) := by
  refine .of_get fun counter owner Γ w h => ?_
  cases hp : w.processes[number]? with
  | none => exact .pure h trivial
  | some p =>
    refine (note_tidy _).andThen h fun Γ₁ w₁ _ _ hmoves₁ => ?_
    refine Tidy.andThen ?_ hmoves₁.kept fun Γ₂ w₂ _ _ hmoves₂ => ?_
    · exact updateProcess_tidy number fun p => ⟨id, rfl, rfl, rfl⟩
    split
    · refine (tellOnOpen_tidy _ _ _ _).andThen hmoves₂.kept fun Γ₃ w₃ _ _ hmoves₃ => ?_
      split
      · exact .pure hmoves₃.kept trivial
      · exact carryOut_tidy _ _ _ _ _ _ _ hmoves₃.kept
    · exact .pure hmoves₂.kept trivial

theorem writeInput_tidy (number : Nat) (payload : Payload) : Tidy (writeInput number payload) := by
  refine .of_get fun counter owner Γ w h => ?_
  cases hp : w.processes[number]? with
  | none => exact .pure h trivial
  | some p =>
    refine (note_tidy _).andThen h fun Γ₁ w₁ _ _ hmoves₁ => ?_
    split
    · refine Tidy.andThen ?_ hmoves₁.kept fun Γ₂ w₂ _ _ hmoves₂ => ?_
      · exact updateProcess_tidy number fun p => ⟨id, rfl, rfl, rfl⟩
      have hreceive : Tidy ((p.decoder.feed payload.bytes).1.toOption.forM
          (·.forM (receive number))) :=
        .forM_option fun messages => .forM fun message _ => receive_tidy number message
      exact hreceive _ _ _ _ hmoves₂.kept
    · exact .pure hmoves₁.kept trivial

theorem kill_minds (h : Kept counter owner [] Γ w) (number : Nat) :
    Minds counter owner dropper Γ w (fun _ w' _ => w.facts.known number → w'.facts.ended number)
      (kill number) := by
  refine (note_tidy _).andThen h fun Γ₁ w₁ _ hrun hmoves => ?_
  obtain ⟨-, rfl⟩ := Prod.mk.inj hrun
  exact quit_minds hmoves.kept number (-9)

theorem askToEnd_tidy (number : Nat) : Tidy (askToEnd number) := by
  refine (note_tidy _).seq fun _ => .of_get fun counter owner Γ w h => ?_
  cases hp : w.processes[number]? with
  | none => exact .pure h trivial
  | some p =>
    simp only
    split
    · exact .pure h trivial
    · split
      · exact (quit_tidy number (-15)).andThen h fun _ _ _ _ hmoves => .pure hmoves.kept trivial
      · exact .pure h trivial

/-! ## Waiting -/

theorem Ledger.Extends.notMem_of_not_droppable (hext : Γ.Extends owner Γ') {q : Nat}
    {purpose : Purpose} (hpurpose : Γ.purposes[q]? = some purpose)
    (hsafe : ¬ purpose.IsDroppable owner) (hq : q ∉ Γ.dropped) : q ∉ Γ'.dropped := by
  intro hdropped
  rcases hext.droppable q hdropped with hold | ⟨other, hother, hdroppable⟩
  · exact hq hold
  · rw [hext.purposes q purpose hpurpose] at hother
    exact hsafe (Option.some.inj hother ▸ hdroppable)

/-- A promise that was just made was not given up. -/
theorem Kept.fresh {due : List Nat} (h : Kept counter owner due Γ w) :
    w.tasks.promises.length ∉ Γ.dropped := by
  intro hmem
  obtain ⟨purpose, hpurpose, -⟩ := h.books.dropped _ hmem
  have hlt := (List.getElem?_eq_some_iff.1 hpurpose).1
  rw [h.books.length] at hlt
  exact Nat.lt_irrefl _ hlt

theorem Kept.purposes_add {due : List Nat} (h : Kept counter owner due Γ w) (purpose : Purpose) :
    (Γ.add purpose).purposes[w.tasks.promises.length]? = some purpose := by
  rw [← h.books.length]
  exact Ledger.purposes_add_length purpose

/-- A promise that was just made can be waited for. -/
theorem Kept.feeds_add {due : List Nat} (h : Kept counter owner due Γ w) {purpose : Purpose}
    (hfeeds : purpose.Feeds result w.tasks.promises.length e) :
    (Γ.add purpose).Feeds result w.tasks.promises.length e :=
  ⟨purpose, h.purposes_add purpose, h.fresh, hfeeds⟩

/-- What waits for some time may give up what it waits for. -/
theorem Purpose.isDroppable_of_yields {purpose : Purpose} {q : Nat} (h : purpose.Yields result q e) :
    purpose.IsDroppable (some result) := by
  cases purpose with
  | ending process asker => exact congrArg some h.1.symm
  | answer channel id asker => exact congrArg some h.1.symm
  | _ => cases h

namespace Pursues

theorem give (h : Kept counter (some result) [] Γ w)
    (hadmits : Γ.Admits w.facts result below outcome) :
    Pursues counter result below Γ w (give outcome) :=
  .pure h ⟨trivial, hadmits⟩

/-- An activity that comes to what is told to the point below. -/
theorem report (h : Kept counter (some result) [] Γ w) (hsuits : Expectation.Suits counter e below)
    (hadmits : Γ.Admits w.facts result e outcome) :
    Pursues counter result below Γ w (World.give outcome) :=
  give h (hadmits.suits hsuits)

/-- An activity that goes on at a point afterwards. -/
theorem under {point : Point} {act : Act Next}
    (h : Pursues counter result point.expectation Γ w act)
    (hpasses : ∀ Γ' : Ledger, Γ'.Passes counter result below point) :
    Pursues counter result below Γ w (under point act) := by
  refine Minds.bind h fun Γ' w' next _ hmoves hleads => .pure hmoves.kept ?_
  have hlast : Γ'.Sits counter result below [point] := ⟨hpasses Γ', trivial⟩
  cases next with
  | wait q front =>
    refine ⟨Ledger.sits_append.2 ⟨hleads.1, hlast⟩, ?_⟩
    rw [expected_append]
    exact hleads.2
  | go outcome front =>
    refine ⟨Ledger.sits_append.2 ⟨hleads.1, hlast⟩, ?_⟩
    rw [expected_append]
    exact hleads.2

theorem waitAt {q : Nat} {point : Point} (h : Kept counter (some result) [] Γ w)
    (hfeeds : Γ.Feeds result q point.expectation) (hpasses : Γ.Passes counter result below point) :
    Pursues counter result below Γ w (waitAt q point) :=
  .pure h ⟨⟨hpasses, trivial⟩, hfeeds⟩

end Pursues

theorem sleep_pursues (h : Kept counter (some result) [] Γ w) (delay : Nat) :
    Pursues counter result .success Γ w (sleep delay) := by
  refine .after (h.promise 0 .pause trivial) fun h₁ => ?_
  have hallows : (Γ.add .pause).Allows (.release w.tasks.promises.length) := h.purposes_add .pause
  refine .after (h₁.timer delay hallows rfl) fun h₂ => ?_
  exact Pursues.waitAt h₂ (h.feeds_add (.inl rfl)) rfl

/-- What a task waits for is given up, and the task goes on when that has taken effect. -/
theorem reap_pursues (h : Kept counter (some result) [] Γ w) {inner : Nat} {purpose : Purpose}
    (hpurpose : Γ.purposes[inner]? = some purpose) (hyields : purpose.Yields result inner below)
    (alarm : Option Nat) : Pursues counter result below Γ w (reap inner alarm false) := by
  have hlt : inner < w.tasks.promises.length := by
    rw [← h.books.length]
    exact (List.getElem?_eq_some_iff.1 hpurpose).1
  have hadded := Ledger.purposes_add_of hpurpose .pause
  refine .after (h.promise 0 .pause trivial) fun h₁ => ?_
  have hallows : (Γ.add .pause).Allows (.release w.tasks.promises.length) := h.purposes_add .pause
  refine .after (h₁.observe hallows trivial) fun h₂ => ?_
  refine .after (h₂.giveUp hadded (Purpose.isDroppable_of_yields hyields) ⟨result, below, hyields⟩)
    fun h₃ => ?_
  refine Pursues.waitAt h₃ ⟨.pause, h.purposes_add .pause, fun hmem => ?_, .inl rfl⟩
    ⟨rfl, List.mem_cons_self, purpose, hadded, hyields⟩
  rcases List.mem_cons.1 hmem with heq | hmem
  · exact absurd heq (Nat.ne_of_gt hlt)
  · exact h.fresh hmem

/-- A task waits for some time. -/
theorem waitLimited_pursues (h : Kept counter (some result) [] Γ w) {inner : Nat}
    {purpose : Purpose} (hpurpose : Γ.purposes[inner]? = some purpose) (hinner : inner ∉ Γ.dropped)
    (hyields : purpose.Yields result inner below) (limit : Nat) :
    Pursues counter result below Γ w (waitLimited inner limit) := by
  unfold waitLimited
  split
  · refine Minds.get_bind ?_
    cases ho : w.tasks.outcome? inner with
    | some outcome =>
      exact Pursues.give h (Ledger.admits_of_yields hyields (Option.isSome_of_eq_some ho)
        (h.books.outcomes _ _ _ hpurpose ho) hinner)
    | none => exact reap_pursues h hpurpose hyields none
  · have hallows : (Γ.add .pause).Allows (.release w.tasks.promises.length) :=
      h.purposes_add .pause
    have hadded := Ledger.purposes_add_of hpurpose .pause
    refine .after (h.promise 0 .pause trivial) fun h₁ => ?_
    refine .after (h₁.timer limit hallows rfl) fun h₂ => ?_
    refine .after (h₂.observe hallows trivial) fun h₃ => ?_
    exact Pursues.waitAt h₃ (h.feeds_add (.inl rfl)) ⟨hinner, purpose, hadded, hyields⟩

/-- A task waits for an answer, for some time if there is a limit. -/
theorem waitWithin_pursues (h : Kept counter (some result) [] Γ w) {inner channel id : Nat}
    (hpurpose : Γ.purposes[inner]? = some (.answer channel id result)) (hinner : inner ∉ Γ.dropped)
    (hbelow : below = .reply ∨ below = .result ∨ below = .greeting channel inner) (limit : Option Nat) :
    Pursues counter result below Γ w (waitWithin inner limit) := by
  cases limit with
  | none => exact .pure h ⟨trivial, _, hpurpose, hinner, rfl, hbelow⟩
  | some limit => exact waitLimited_pursues h hpurpose hinner ⟨rfl, hbelow⟩ limit

/-- A task waits for a connection. -/
theorem waitShielded_pursues (h : Kept counter (some result) [] Γ w) {started : Nat}
    (hstarted : Γ.purposes[started]? = some .started)
    (hholder : ∃ c ∈ w.connections, c.started = some started) :
    Pursues counter result .request Γ w (waitShielded started) := by
  refine Minds.get_bind ?_
  cases w.tasks.outcome? started with
  | some outcome => exact Pursues.give h trivial
  | none => exact ⟨_, h.shield hstarted hholder, trivial, h.feeds_add rfl⟩

/-- A task waits for several things. -/
theorem waitAll_pursues (h : Kept counter (some result) [] Γ w) (promises : List Nat) {point : Point}
    {purpose : Purpose} (hpurpose : purpose = .pause ∨ purpose = .idle)
    (hfeeds : purpose.Feeds result w.tasks.promises.length point.expectation)
    (hpasses : ∀ Γ' : Ledger, Γ'.Passes counter result below point) :
    Pursues counter result below Γ w (waitAll promises point) := by
  have hbare : purpose.IsBare := by rcases hpurpose with rfl | rfl <;> trivial
  have hsafe : ¬ purpose.IsDroppable (some result) := by rcases hpurpose with rfl | rfl <;> exact id
  refine .after (h.promise promises.length purpose hbare) fun h₁ => ?_
  -- The promise that is waited for is made first, and then each of the others counts it down.
  have hobserved : ∀ (promises : List Nat) (Γ₁ : Ledger) (w₁ : World),
      Kept counter (some result) [] Γ₁ w₁ →
      Γ₁.purposes[w.tasks.promises.length]? = some purpose →
      Minds counter (some result) (some result) Γ₁ w₁ (fun _ _ _ => True)
        (promises.forM fun p => observe p (.tally w.tasks.promises.length)) := by
    intro promises
    induction promises with
    | nil => exact fun _ _ h _ => .pure h trivial
    | cons p rest ih =>
      intro Γ₁ w₁ h₁ hdone
      have hallows : Γ₁.Allows (.tally w.tasks.promises.length) := by
        rcases hpurpose with rfl | rfl
        · exact .inl hdone
        · exact .inr hdone
      exact .after (h₁.observe hallows trivial) fun h₂ => ih Γ₁ _ h₂ hdone
  refine Minds.bind (hobserved promises _ _ h₁ (h.purposes_add purpose)) fun Γ₂ w₂ _ _ hmoves _ => ?_
  have hdone := h.purposes_add purpose
  exact Pursues.waitAt hmoves.kept ⟨purpose, hmoves.ledger.purposes _ _ hdone,
    hmoves.ledger.notMem_of_not_droppable hdone hsafe h.fresh, hfeeds⟩ (hpasses Γ₂)

/-- A task goes on after waiting. -/
theorem waitResume_pursues (h : Kept counter (some result) [] Γ w) {point : WaitPoint}
    (hpasses : Γ.Passes counter result below (.wait point))
    (hadmits : Γ.Admits w.facts result .pause outcome) :
    Pursues counter result below Γ w (point.resume outcome) := by
  obtain ⟨answer, rfl⟩ := hadmits
  cases point with
  | sleeping alarm =>
    obtain rfl : below = .success := hpasses
    exact .after (h.stopTimer alarm) fun h₁ => Pursues.give h₁ ⟨answer, rfl⟩
  | limited inner alarm =>
    obtain ⟨hinner, purpose, hpurpose, hyields⟩ := hpasses
    refine Minds.get_bind ?_
    -- What was waited for is known in time, or it is given up and reaped.
    cases ho : w.tasks.outcome? inner with
    | some known =>
      have hknown := Ledger.admits_of_yields hyields (Option.isSome_of_eq_some ho)
        (h.books.outcomes _ _ _ hpurpose ho) hinner
      exact .after (h.stopTimer alarm) fun h₁ => Pursues.give h₁ hknown
    | none => exact reap_pursues h hpurpose hyields (some alarm)
  | reaping inner alarm interrupted =>
    obtain ⟨rfl, hdropped, purpose, hpurpose, hyields⟩ := hpasses
    have hstop : Tidy (alarm.forM stopTimer) :=
      .forM_option fun number _ _ _ _ h => .of_moves (h.stopTimer number) trivial
    refine hstop.andThen h fun Γ₁ w₁ _ _ hmoves => .get_bind ?_
    have hpurpose₁ := hmoves.ledger.purposes _ _ hpurpose
    exact Pursues.give hmoves.kept (Ledger.admits_lateOutcome hyields
      (fun process asker heq => hmoves.kept.endings inner process asker (heq ▸ hpurpose₁))
      (fun channel id asker heq => hmoves.kept.spared inner (hmoves.ledger.dropped _ hdropped) channel
        id asker (heq ▸ hpurpose₁))
      fun known hknown => hmoves.kept.books.outcomes _ _ _ hpurpose₁ hknown)

/-! ## Programs that wait -/

theorem startCompanion_pursues (h : Kept counter (some result) [] Γ w) (command : List String)
    (hsuits : Expectation.Suits counter .process below) :
    Pursues counter result below Γ w (startCompanion command) := by
  refine Minds.get_bind ?_
  have hcount : Tidy (modify fun w : World => { w with companionCount := w.companionCount + 1 }) :=
    fun _ _ Γ _ h => ⟨Γ, ⟨.refl, .refl _, .refl, { h with }⟩, trivial⟩
  refine hcount.andThen h fun Γ₁ w₁ _ _ hmoves₁ => ?_
  refine (note_tidy _).andThen hmoves₁.kept fun Γ₂ w₂ _ _ hmoves₂ => ?_
  refine Pursues.under ?_ fun _ => ⟨_, rfl, hsuits⟩
  split
  · exact Pursues.give hmoves₂.kept ⟨_, rfl⟩
  · exact sleep_pursues hmoves₂.kept _

theorem startingResume_pursues (h : Kept counter (some result) [] Γ w) (script : CompanionScript)
    (command : List String) (hsuits : Expectation.Suits counter .process below)
    (hadmits : Γ.Admits w.facts result .success outcome) :
    Pursues counter result below Γ w (ProgramPoint.resume (.starting script command) outcome) := by
  obtain ⟨answer, rfl⟩ := hadmits
  unfold ProgramPoint.resume
  simp only
  split
  · exact Pursues.report h hsuits (.inr ⟨_, _, rfl⟩)
  · refine Minds.get_bind (.after (.of_kept (h.addProcess script) rfl) fun h₁ => ?_)
    refine Pursues.report h₁ hsuits (.inl ⟨_, rfl, ?_⟩)
    show w.processes.length < (w.processes ++ [_]).length
    simp

/-- A task waits for the end of a process. -/
theorem awaitExit_pursues (h : Kept counter (some result) [] Γ w) (number : Nat)
    (hsuits : Expectation.Suits counter (.exit number) below) :
    Pursues counter result below Γ w (awaitExit number) := by
  refine Minds.get_bind ?_
  cases hcode : exitCode? w number with
  | some code =>
    refine Pursues.report h hsuits ⟨fun _ _ => ?_, fun _ hf => (by cases hf)⟩
    show (exitCode? w number).isSome
    rw [hcode]
    rfl
  | none =>
    refine .after (h.promise 0 (.exit number result) trivial) fun h₁ => ?_
    refine .after (updateProcess_moves h₁ number fun p _ hserves =>
      ⟨id, ⟨hserves.readers, fun q hq => ?_⟩⟩) fun h₂ => ?_
    · rcases List.mem_append.1 hq with hq | hnew
      · exact hserves.exits q hq
      · exact ⟨result, List.mem_singleton.1 hnew ▸ h.purposes_add _⟩
    · exact Pursues.waitAt h₂ (h.feeds_add ⟨rfl, rfl⟩) ⟨_, rfl, hsuits⟩

/-- The end of a process that has ended is known at once. -/
theorem awaitExit_pursues_ended (h : Kept counter (some result) [] Γ w) (number : Nat)
    (hended : w.facts.ended number) (hbelow : ∀ a, Γ.Admits w.facts result below (.ok a)) :
    Pursues counter result below Γ w (awaitExit number) := by
  refine Minds.get_bind ?_
  obtain ⟨code, hcode⟩ := Option.isSome_iff_exists.1 hended
  rw [show exitCode? w number = some code from hcode]
  exact Pursues.give h (hbelow _)

theorem endingResume_pursues (h : Kept counter (some result) [] Γ w) (number : Nat)
    (hsuits : Expectation.Suits counter (.exit number) below)
    (hadmits : Γ.Admits w.facts result (.exit number) outcome) :
    Pursues counter result below Γ w (ProgramPoint.resume (.ending number) outcome) := by
  cases outcome with
  | ok answer =>
    refine Minds.get_bind (Pursues.report h hsuits ?_)
    exact ⟨fun _ _ => hadmits.1 answer rfl, fun _ hf => (by cases hf)⟩
  | error failure => exact Pursues.report h hsuits hadmits

/-! ## Messages over a channel -/

theorem newChannel_moves (h : Kept counter owner [] Γ w) (command : List String) (holder : Owner) :
    Moves counter owner dropper Γ w Γ ((newChannel command holder).run w).2 :=
  .of_kept (h.addChannel command holder { nesting := w.host.nesting }) rfl

theorem updateChannel_moves (h : Kept counter owner [] Γ w) {number : Nat}
    {change : Channel → Channel} (hanswers : ∀ c, (change c).answers = c.answers)
    (hrequests : ∀ c, (change c).requests = c.requests)
    (hcarries : ∀ c, w.channels[number]? = some c → Γ.Carries w.facts number c →
      (∀ p, (change c).process = some p → w.facts.known p) ∧
        ∀ task ∈ (change c).tasks, ∃ q : Nat, Γ.purposes[q]? = some (.errand task)) :
    Moves counter owner dropper Γ w Γ ((updateChannel number change).run w).2 := by
  refine .of_kept (h.setChannel hanswers (fun c hc => ?_) hcarries
    (fun c hc i q _ hnone => .inr (.inr (by rw [hrequests]; exact hnone))) fun _ hq => hq) rfl
  rw [hrequests]
  exact .refl (h.channels number c hc).valid

/-- A channel is changed in a way that concerns no promise. -/
theorem updateChannel_tidy (number : Nat) {change : Channel → Channel}
    (hchange : ∀ c, (change c).answers = c.answers ∧ (change c).requests = c.requests ∧
      ((change c).process = c.process ∨ (change c).process = none) ∧
      ((change c).tasks = c.tasks ∨ (change c).tasks = [])) :
    Tidy (updateChannel number change) := by
  intro counter owner Γ w h
  refine .of_moves (updateChannel_moves h (fun c => (hchange c).1) (fun c => (hchange c).2.1)
    fun c _ hcarries => ⟨fun p hp => ?_, fun task htask => ?_⟩) trivial
  · rcases (hchange c).2.2.1 with heq | heq <;> rw [heq] at hp
    · exact hcarries.process p hp
    · cases hp
  · rcases (hchange c).2.2.2 with heq | heq <;> rw [heq] at htask
    · exact hcarries.tasks task htask
    · exact absurd htask List.not_mem_nil

theorem send_tidy (number : Nat) (payload : Payload) : Tidy (send number payload) := by
  refine .of_get fun counter owner Γ w h => ?_
  split
  · exact writeInput_tidy _ _ _ _ _ _ h
  · exact .pure h trivial

theorem notifyThrough_tidy (number : Nat) (method : String) (params : Value) :
    Tidy (notifyThrough number method params) :=
  send_tidy _ _

/-- A channel through which a request was sent. -/
def Channel.addRequest (c : Channel) (method : String) (answer : Nat) : Channel :=
  { c with requests := c.requests.request method, answers := c.answers ++ [answer] }

theorem getElem?_modify_self {α : Type} {items : List α} {number : Nat} {a : α} {change : α → α}
    (h : items[number]? = some a) : (items.modify number change)[number]? = some (change a) := by
  simp [h]

theorem getElem?_modify_ne {α : Type} {items : List α} {number other : Nat} {change : α → α}
    (h : number ≠ other) : (items.modify number change)[other]? = items[other]? := by
  simp [h]

/-- A request is listed with the promise of its answer. -/
theorem Kept.request (h : Kept counter owner [] Γ w) {number : Nat} {c : Channel}
    (hc : w.channels[number]? = some c) (method : String) (asker : Nat) :
    Moves counter owner dropper Γ w (Γ.add (.answer number c.requests.nextId asker))
      { w with
        tasks := (w.tasks.addPromise 0).2
        channels := w.channels.modify number (·.addRequest method w.tasks.promises.length) } := by
  have hext : Γ.Extends dropper (Γ.add (.answer number c.requests.nextId asker)) :=
    Ledger.extends_add _
  have hnew := h.purposes_add (.answer number c.requests.nextId asker)
  -- what is known of requests and promises stays known, as both are only added to
  have hgrow : w.facts.Grow { w with
      tasks := (w.tasks.addPromise 0).2
      channels := w.channels.modify number
        (·.addRequest method w.tasks.promises.length) : World }.facts := by
    refine ⟨fun _ hp => hp, fun _ hp => hp, fun channel id value => ?_,
      (Facts.Grow.of_tasks (w := w) (Onward.addPromise 0).outcomes).heard⟩
    rintro ⟨c', hc', ho⟩
    by_cases heq : number = channel
    · subst heq
      exact ⟨_, getElem?_modify_self hc', (Rpc.Requests.outcome?_request _ _ _).trans ho⟩
    · exact ⟨c', (getElem?_modify_ne heq).trans hc', ho⟩
  have hlength := (h.channels number c hc).length
  refine ⟨hext, hgrow, .addPromise 0, ⟨(h.books.addPromise 0 rfl).grow hgrow,
    h.posts.addPromise h.books.length 0 (by simp),
    fun number p hp => (h.processes number p hp).mono hext, ?channels,
    fun c hc => (h.connections c hc).mono hext, fun q hq => hext.purposes _ _ (h.tickets q hq),
    h.listener, ?owned, ?endings, ?undecided, ?spared, ?shielded, ?halted⟩⟩
  case channels =>
    intro other c' hc'
    obtain ⟨old, hold, ⟨rfl, rfl⟩ | ⟨-, rfl⟩⟩ := Tasks.getElem?_modify_cases hc'
    · rw [hc] at hold
      obtain rfl := Option.some.inj hold
      have hcarries := (h.channels _ c hc).mono hext hgrow
      refine ⟨hcarries.process, hcarries.tasks, fun i q hq => ?_, ?_, ?_⟩
      · rcases Tasks.getElem?_concat_cases hq with hold | ⟨rfl, rfl⟩
        · exact hcarries.answers i q hold
        · exact ⟨asker, by rw [hlength]; exact hnew⟩
      · simp [Channel.addRequest, Rpc.Requests.request, hlength]
      · exact Rpc.valid_step hcarries.valid Rpc.defaultHandlers
          (Rpc.Event.spelled_request none method .null)
    · exact (h.channels other _ hold).mono hext hgrow
  case owned =>
    intro q channel id asker' hq
    rcases Ledger.purposes_add_cases hq with hq | ⟨rfl, heq⟩
    · obtain ⟨c', hc', hanswer⟩ := h.owned q channel id asker' hq
      by_cases heq : number = channel
      · subst heq
        refine ⟨_, getElem?_modify_self hc', ?_⟩
        exact Tasks.getElem?_append_of_some hanswer _
      · exact ⟨c', (getElem?_modify_ne heq).trans hc', hanswer⟩
    · obtain ⟨rfl, hid, rfl⟩ := Purpose.answer.inj heq.symm
      refine ⟨_, getElem?_modify_self hc, ?_⟩
      obtain rfl : id = c.answers.length := by
        rw [hlength]
        exact (Nat.succ.inj hid).symm
      simp [Channel.addRequest, h.books.length]
  case endings =>
    intro q process asker' hq
    rcases Ledger.purposes_add_cases hq with hold | ⟨-, heq⟩
    · exact h.endings q process asker' hold
    · cases heq
  case undecided =>
    intro other c' i q hc' hq hdue hnone
    -- the new request is undecided, and all older ones are as they were
    have hopen : w.tasks.outcome? q = none := by
      cases ho : w.tasks.outcome? q with
      | none => rfl
      | some outcome =>
        exact absurd (((Onward.addPromise 0).outcomes q outcome ho).symm.trans hnone) (by simp)
    obtain ⟨old, hold, ⟨rfl, rfl⟩ | ⟨-, rfl⟩⟩ := Tasks.getElem?_modify_cases hc'
    · rw [Channel.addRequest, Rpc.Requests.outcome?_request]
      rw [Channel.addRequest, List.getElem?_append] at hq
      split at hq
      · exact h.undecided _ old i q hold hq hdue hopen
      · rename_i hge
        have hcarries := h.channels _ old hold
        exact Rpc.Requests.outcome?_of_length_lt hcarries.valid (by rw [← hcarries.length]; omega)
    · exact h.undecided other _ i q hold hq hdue hopen
  case spared =>
    intro q hq channel id asker' hanswer
    obtain ⟨purpose, hpurpose, -⟩ := h.books.dropped q hq
    obtain rfl := Option.some.inj ((hext.purposes q _ hpurpose).symm.trans hanswer)
    exact hgrow.heard q (h.spared q hq channel id asker' hpurpose)
  case shielded =>
    intro q source hq
    rcases Ledger.purposes_add_cases hq with hold | ⟨-, heq⟩
    · exact (h.shielded q source hold).imp_left (hgrow.heard source)
    · cases heq
  case halted =>
    exact fun c hc hphase source hsource => hgrow.heard source (h.halted c hc hphase source hsource)

/-- What is left of a request once it is listed: it is sent, or what stands against it is the result. -/
def sendListed (room : Option Nat) (number : Nat) (message : Fields) (answer : Nat) :
    Act (Except Json.Excess Nat) :=
  match Rpc.refusal? room (.object message) with
  | some what => return .error what
  | none => do
    send number (.message message)
    return .ok answer

theorem sendListed_tidy (room : Option Nat) (number : Nat) (message : Fields) (answer : Nat) :
    Tidy (sendListed room number message answer) := by
  rw [sendListed]
  cases Rpc.refusal? room (.object message) with
  | some what => exact .pure _
  | none => exact (send_tidy number (.message message)).seq fun _ => .pure _

/-- The promise of a request that was sent is the one it was listed with. -/
theorem eq_of_sendListed {room : Option Nat} {number : Nat} {message : Fields} {answer q : Nat} {w : World}
    (h : ((sendListed room number message answer).run w).1 = .ok q) : q = answer := by
  rw [sendListed] at h
  cases hrefused : Rpc.refusal? room (.object message) with
  | some what =>
    rw [hrefused] at h
    cases h
  | none =>
    rw [hrefused] at h
    exact (Except.ok.inj h).symm

/-- A request is sent, and its answer can be waited for, or it cannot be written. -/
theorem requestThrough_minds (h : Kept counter owner [] Γ w) (room : Option Nat) (number : Nat)
    (method : String) (params : Value) (asker : Nat) :
    Minds counter owner dropper Γ w (fun Γ' _ asked => (room = none → ∃ q, asked = .ok q) ∧
      ∀ q, asked = .ok q → q ∉ Γ'.dropped ∧ ∃ id, Γ'.purposes[q]? = some (.answer number id asker))
      (requestThrough room number method params) := by
  cases hc : w.channels[number]? with
  | none =>
    refine .after (h.promise 0 (.answer number 0 asker) trivial) fun h₁ => .get_bind ?_
    rw [show ((promise 0).run w).2.channels[number]? = none from hc]
    refine .pure h₁ ⟨fun _ => ⟨_, rfl⟩, fun q hq => ?_⟩
    obtain rfl := Except.ok.inj hq
    exact ⟨h.fresh, 0, h.purposes_add _⟩
  | some c =>
    -- The number is read before the request is sent, so
    -- what is left to do is stated with that number.
    let message := Rpc.requestMessage (.nat c.requests.nextId) method params
    let rest : Act (Except Json.Excess Nat) := do
      observe w.tasks.promises.length (.hook (.forget number c.requests.nextId))
      sendListed room number message w.tasks.promises.length
    have hrun : (requestThrough room number method params).run w = rest.run { w with
        tasks := (w.tasks.addPromise 0).2
        channels := w.channels.modify number (·.addRequest method w.tasks.promises.length) } := by
      have hfound : ((promise 0).run w).2.channels[number]? = some c := hc
      rw [requestThrough, run_bind, run_bind, run_get, hfound]
      rfl
    have hmoves : Moves counter owner dropper Γ w _ _ := h.request hc method asker
    have hsends : (Γ.add (.answer number c.requests.nextId asker)).Sends w.tasks.promises.length
        (.hook (.forget number c.requests.nextId)) := ⟨asker, h.purposes_add _⟩
    have hallows : (Γ.add (.answer number c.requests.nextId asker)).Allows
        (.hook (.forget number c.requests.nextId)) := trivial
    have hobserved : Moves counter owner dropper _ _ _ _ := hmoves.kept.observe hallows hsends
    obtain ⟨Γ', hsent, -⟩ := sendListed_tidy room number message _ _ _ _ _ hobserved.kept
    have hpurpose := h.purposes_add (.answer number c.requests.nextId asker)
    refine ⟨Γ', hrun ▸ (hmoves.trans hobserved).trans hsent.weaken, ?_, fun q hq => ?_⟩
    · rintro rfl
      exact requestThrough_ok number method params w
    obtain rfl : q = w.tasks.promises.length := by
      rw [hrun] at hq
      exact eq_of_sendListed hq
    exact ⟨hsent.ledger.notMem_of_not_droppable hpurpose (by simp [Purpose.IsDroppable]) h.fresh,
      _, hsent.ledger.purposes _ _ hpurpose⟩

/-- Requests are decided in a way that leaves some promises due to be settled. -/
theorem updateRequests_kept (h : Kept counter owner [] Γ w) {number : Nat} {c : Channel}
    (hc : w.channels[number]? = some c) (change : Rpc.Requests → Rpc.Requests)
    (hadvances : c.requests.Advances (change c.requests)) (due : List Nat)
    (hdecided : ∀ i q : Nat, c.answers[i]? = some q → c.requests.outcome? (i + 1) = none →
      q ∈ due ∨ w.tasks.outcome? q ≠ none ∨ (change c.requests).outcome? (i + 1) = none) :
    w.facts.Grow
        ((updateChannel number fun c => { c with requests := change c.requests }).run w).2.facts ∧
      Kept counter owner due Γ
        ((updateChannel number fun c => { c with requests := change c.requests }).run w).2 := by
  refine h.setChannel (fun _ => rfl) (fun c' hc' => ?_) (fun c' hc' hcarries =>
    ⟨hcarries.process, hcarries.tasks⟩) (fun c' hc' => ?_) fun _ hq => absurd hq List.not_mem_nil
  all_goals
    rw [hc] at hc'
    obtain rfl := Option.some.inj hc'
  · exact hadvances
  · exact hdecided

theorem Ledger.permits_answer {f : Facts} {q number id asker : Nat} {failure : Failure}
    (hfailure : isUnanswered failure) : Γ.Permits f q (.answer number id asker) (.error failure) :=
  ⟨fun _ ha => (by cases ha), fun _ hf => .inl (Except.error.inj hf ▸ hfailure)⟩

/-- What the peer has decided settles the promise of the answer. -/
theorem decided_moves (h : Kept counter owner [] Γ w) {number : Nat} {c : Channel}
    (hc : w.channels[number]? = some c) {requests : Rpc.Requests}
    (hadvances : c.requests.Advances requests) {id : Nat} {outcome : Rpc.Outcome}
    (hdecided : requests.outcome? id = some outcome)
    (hothers : ∀ other, other ≠ id → requests.outcome? other = c.requests.outcome? other)
    (hfailed : ∀ failure, outcome = .error failure → ∃ fault, failure = .peer fault) :
    Moves counter owner dropper Γ w Γ ((do
      updateChannel number fun c => { c with requests }
      (c.answerTo? id).forM fun answer => settle answer (outcome.map .json) : Act Unit).run w).2 := by
  have hid : 0 < id := by
    refine Nat.pos_of_ne_zero fun hzero => ?_
    obtain ⟨request, hrequest, -⟩ := Option.bind_eq_some_iff.1 hdecided
    obtain ⟨hmem, hnumber⟩ := hadvances.valid.get?_eq_some_iff.1 hrequest
    obtain ⟨i, hi⟩ := List.mem_iff_getElem?.1 hmem
    have := Rpc.Requests.id_of_getElem? hadvances.valid hi
    omega
  obtain ⟨i, rfl⟩ : ∃ i, id = i + 1 := ⟨id - 1, by omega⟩
  -- The one promise that this makes due is that of the request, and it is settled at once.
  have hupdated := updateRequests_kept h hc (fun _ => requests) hadvances (c.answers[i]?).toList ?_
  · cases hanswer : c.answerTo? (i + 1) with
    | none =>
      rw [show c.answers[i]? = none from hanswer] at hupdated
      exact ⟨.refl, hupdated.1, .refl, hupdated.2⟩
    | some q =>
      have hq : c.answers[i]? = some q := hanswer
      rw [hq] at hupdated
      obtain ⟨asker, hasker⟩ := (h.channels number c hc).answers i q hq
      refine ⟨.refl, hupdated.1.trans (.of_tasks (Onward.settle q).outcomes), .settle q,
        hupdated.2.settle_due fun purpose hpurpose => ?_⟩
      rw [hasker] at hpurpose
      obtain rfl := Option.some.inj hpurpose
      cases outcome with
      | ok value =>
        refine ⟨fun a ha => ?_, fun failure hf => (by cases hf)⟩
        obtain rfl : Answer.json value = a := by simpa [Except.map] using ha
        exact ⟨_, getElem?_modify_self hc, hdecided⟩
      | error failure =>
        obtain ⟨fault, rfl⟩ := hfailed failure rfl
        exact Ledger.permits_answer rfl
  · intro other q hq hopen
    by_cases heq : other = i
    · subst heq
      exact .inl (by simp [hq])
    · exact .inr (.inr (by rw [hothers (other + 1) (by omega)]; exact hopen))

theorem takeMessage_tidy (room : Option Nat) (number : Nat) (message : Fields) :
    Tidy (takeMessage room number message) := by
  refine .of_get fun counter owner Γ w h => ?_
  cases hc : w.channels[number]? with
  | none => exact .pure h trivial
  | some c =>
    have hvalid := (h.channels number c hc).valid
    have hadvances : c.requests.Advances
        (c.requests.handle { writing := room } Rpc.defaultHandlers message).1 :=
      Rpc.Requests.Advances.step hvalid Rpc.defaultHandlers (Rpc.Requests.spelled_receive room message)
        rfl
    rcases Rpc.Requests.handle_cases hvalid { writing := room } Rpc.defaultHandlers message with
      ⟨id, outcome, hreaction, -, hdecided, hothers, hfailed⟩ | ⟨hreaction, hsame⟩
    · refine ⟨Γ, ?_, trivial⟩
      simp only [hreaction]
      exact decided_moves h hc hadvances hdecided hothers hfailed
    · simp only
      have hupdated := updateRequests_kept h hc
        (fun _ => (c.requests.handle { writing := room } Rpc.defaultHandlers message).1) hadvances []
        fun i q _ hopen =>
        .inr (.inr (by rw [hsame]; exact hopen))
      refine .after (.of_kept hupdated rfl) fun h₁ => ?_
      split
      · exact .pure h₁ trivial
      · exact .pure h₁ trivial
      · exact (send_tidy _ _).andThen h₁ fun _ _ _ _ hmoves => .pure hmoves.kept trivial
      · exact absurd ‹_› (hreaction _ _)
      · exact .pure h₁ trivial

/-- All promises of a list that are due are settled with one failure. -/
theorem settleAll_moves {α : Type} (f : α → Option Nat) {failure : Failure} (items : List α)
    {w : World} (h : Kept counter owner (items.filterMap f) Γ w)
    (hpermits : ∀ q ∈ items.filterMap f, ∀ purpose, Γ.purposes[q]? = some purpose →
      Γ.Permits w.facts q purpose (.error failure)) :
    Moves counter owner none Γ w Γ
      ((items.forM fun item => (f item).forM fun q => settle q (.error failure)).run w).2 := by
  -- Each item takes its own promise off the list of those that are due.
  induction items generalizing w with
  | nil => exact .refl h
  | cons item rest ih =>
    show Moves counter owner none Γ w Γ
      ((rest.forM fun item => (f item).forM fun q => settle q (.error failure) : Act Unit).run
        ((((f item).forM fun q => settle q (.error failure)) : Act Unit).run w).2).2
    cases hitem : f item with
    | none =>
      rw [List.filterMap_cons_none hitem] at h hpermits
      exact ih h hpermits
    | some q =>
      rw [List.filterMap_cons_some hitem] at h hpermits
      have hsettled := h.settle_due (hpermits q List.mem_cons_self)
      have hgrow : w.facts.Grow { w with tasks := w.tasks.settle q (.error failure) : World }.facts :=
        .of_tasks (Onward.settle q).outcomes
      have hrest := ih hsettled fun other hother purpose hpurpose =>
        (hpermits other (List.mem_cons_of_mem _ hother) purpose hpurpose).mono
          (.refl : Γ.Extends none Γ) hgrow
      exact ⟨hrest.ledger, hgrow.trans hrest.grows, (Onward.settle q).trans hrest.onward, hrest.kept⟩

/-- Rejecting all requests settles the promises of all that are undecided. -/
theorem rejectAll_tidy (number : Nat) {failure : Failure} (hfailure : isUnanswered failure) :
    Tidy (rejectAll number failure) := by
  refine .of_get fun counter owner Γ w h => ?_
  cases hc : w.channels[number]? with
  | none => exact .pure h trivial
  | some c =>
    simp only
    have hcarries := h.channels number c hc
    have hadvances : c.requests.Advances (c.requests.rejectAll failure) :=
      Rpc.Requests.Advances.step hcarries.valid Rpc.defaultHandlers (Rpc.Event.spelled_rejectAll failure)
        rfl
    have hupdated := updateRequests_kept h hc (·.rejectAll failure) hadvances
      (c.requests.rejectable.filterMap fun request : Rpc.Request => c.answerTo? request.id) ?_
    · have hpermits : ∀ (f : Facts),
          ∀ q ∈ c.requests.rejectable.filterMap (fun request : Rpc.Request => c.answerTo? request.id),
          ∀ purpose, Γ.purposes[q]? = some purpose → Γ.Permits f q purpose (.error failure) := by
        intro f q hq purpose hpurpose
        obtain ⟨request, -, hanswer⟩ := List.mem_filterMap.1 hq
        obtain ⟨asker, hasker⟩ := hcarries.answers _ q hanswer
        rw [hasker] at hpurpose
        exact Option.some.inj hpurpose ▸ Ledger.permits_answer hfailure
      have hsettled := settleAll_moves _ _ hupdated.2 (hpermits _)
      exact ⟨Γ, ⟨.refl, hupdated.1.trans hsettled.grows, hsettled.onward, hsettled.kept⟩, trivial⟩
    · -- what is undecided is listed
      intro i q hq hopen
      obtain ⟨request, hrequest⟩ : ∃ request, c.requests.sent[i]? = some request := by
        have hlt := (List.getElem?_eq_some_iff.1 hq).1
        rw [hcarries.length] at hlt
        exact ⟨_, List.getElem?_eq_getElem hlt⟩
      have hmem := List.mem_of_getElem? hrequest
      rw [Rpc.Requests.outcome?_of_getElem? hcarries.valid hrequest] at hopen
      refine .inl (List.mem_filterMap.2 ⟨request, ?_, ?_⟩)
      · simp [Rpc.Requests.rejectable, Rpc.Requests.pending, hmem, hcarries.valid.listed _ hmem hopen,
          Rpc.Request.undecided_iff, hopen]
      · rw [Rpc.Requests.id_of_getElem? hcarries.valid hrequest]
        exact hq

/-- A request is taken off its list when the promise of its answer is settled. -/
theorem forget_moves (h : Kept counter owner [] Γ w) {number id q asker : Nat}
    (hanswer : Γ.purposes[q]? = some (.answer number id asker))
    (hsettled : (w.tasks.outcome? q).isSome) :
    Moves counter owner dropper Γ w Γ ((forget number id).run w).2 := by
  have hcarries := h.channels number
  refine .of_kept (h.setChannel (fun _ => rfl) (fun c hc =>
    Rpc.Requests.advances_forget (hcarries c hc).valid id) (fun c hc hcarries =>
    ⟨hcarries.process, hcarries.tasks⟩) (fun c hc i other hother hopen => ?_) fun _ hq => hq) rfl
  by_cases heq : i + 1 = id
  · -- the promise of its answer is the one that is settled
    subst heq
    obtain ⟨c', hc', hq⟩ := h.owned q number i asker hanswer
    rw [hc] at hc'
    obtain rfl := Option.some.inj hc'
    rw [hother] at hq
    obtain rfl := Option.some.inj hq
    exact .inr (.inl (Option.isSome_iff_ne_none.1 hsettled))
  · refine .inr (.inr ?_)
    show ((c.requests.cancel id).unlist id).outcome? (i + 1) = none
    rw [Rpc.Requests.outcome?_unlist, Rpc.Requests.cancel, Rpc.Requests.outcome?_decide, if_neg heq]
    exact hopen

end BasiliskServer.World
