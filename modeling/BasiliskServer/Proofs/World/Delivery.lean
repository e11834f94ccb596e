import BasiliskServer.Proofs.Rpc.Messages
import BasiliskServer.Proofs.World.OpenChannel

/-!
# What a channel delivers

The messages that a channel delivers are the first ones in what its process writes, in order. When
it reports that the process has ended, it has delivered all of them, unless the decoder fails on
something that was written; it reports this once, and not after somebody has begun to close it; and
nothing is handed to the process any more once the channel is being closed or the end is reported.

`Delivering` is the invariant: it accounts for all bytes that were written. Those that were heard
were delivered, and the rest waits to be read, or the reader has failed.
-/

namespace BasiliskServer.World

open Json (Fields)
open Tasks (Notice Scheduler)

/-- The points of the task that reads the output. -/
def Point.isReading : Point → Bool
  | .start (.readOutput 0) | .channel (.output 0 0) => true
  | _ => false

/-- A decoder fails on a byte stream. -/
def IsFatal (nesting : Nat) (bytes : List UInt8) : Prop :=
  ∃ what, (Rpc.drain nesting bytes).1 = .error what

/-- There is nothing more to be delivered of what was written: the process has ended and all is
read, or the decoder fails. -/
def IsExhausted (nesting : Nat) (bytes : List UInt8) (p : Process) : Prop :=
  p.stdout.ended ∧ p.stdout.buffer = [] ∨ IsFatal nesting bytes

/-- What was written falls into what was heard, of which the messages were delivered, and the rest,
which was not read yet, unless the reader has failed. -/
structure Accounts (r : Reception) (written : List UInt8) (frames : List Fields) (c : Channel)
    (p : Process) (t : Tasks.Task Point) (heard rest : List UInt8) (messages : List Fields)
    (left : List UInt8) :
    Prop where
  /-- All bytes are accounted for. -/
  whole : written = heard ++ rest
  /-- These are the messages in what was heard. -/
  drained : Rpc.drain r.nesting heard = (.ok messages, left)
  /-- They were delivered. -/
  delivered : frames = messages.filter r.takes
  /-- The rest was not read yet, or the reader has failed. -/
  waits : rest = p.stdout.buffer ∧ c.decoder.buffer = left ∨ t.stack = [] ∧ IsFatal r.nesting written

/-- The channel `c` with the process `p` and the reader `t` has delivered what it should of the
bytes that the process has written. -/
structure Delivering (r : Reception) (written : List UInt8) (w : World) (c : Channel)
    (p : Process) (t : Tasks.Task Point) : Prop where
  /-- There is one channel. -/
  channels : w.channels = [c]
  /-- Its messages are recorded. -/
  owner : ∃ full, c.owner = .recorder full r.takes
  /-- Its decoder reads as deep as it should. -/
  decoder : c.decoder.nesting = r.nesting
  /-- There is one process. -/
  processes : w.processes = [p]
  /-- Its output can be read. -/
  fault : p.stdout.fault = none
  /-- Its output ends with it. -/
  code : p.stdout.ended = p.code.isSome
  /-- The first task reads. -/
  reader : w.tasks.tasks[0]? = some t
  /-- The reader reads, or is over. -/
  reads : t.stack = [] ∨ ∃ point, t.stack = [point] ∧ point.isReading
  /-- The other tasks do not read. -/
  aside : ∀ (i : Nat) (u : Tasks.Task Point), w.tasks.tasks[i]? = some u → i ≠ 0 →
    ∀ point ∈ u.stack, point.isAside
  /-- What was written is accounted for. -/
  accounts : ∃ heard rest messages left,
    Accounts r written w.record.frames c p t heard rest messages left
  /-- The end is reported at most once. -/
  exits : w.record.exits.length ≤ 1
  /-- When it is, the channel is closed, and nothing is left to be delivered. -/
  reported : w.record.exits ≠ [] → c.closing ∧ t.stack = [] ∧ IsExhausted r.nesting written p
  /-- The channel is being closed, or it is at work, and the reader reads as long as there is
  anything to read. -/
  work : c.closing ∨ (∃ waiters, AtWork waiters w) ∧ (t.stack = [] → IsExhausted r.nesting written p)

/-- What was written has grown, and the channel has delivered what it should; once it is being
closed, it reports no end and hands nothing over. -/
def Advances (r : Reception) (written : List UInt8) (w : World) (c : Channel) (w' : World) : Prop :=
  (∃ c' p' t', Delivering r (written ++ w'.unread.drop w.unread.length) w' c' p' t' ∧
    (c.closing → c'.closing)) ∧
  (c.closing → w'.record.exits = w.record.exits ∧ w'.record.handed = w.record.handed)

/-! ## Bytes that were written -/

theorem IsFatal.append {nesting : Nat} {bytes : List UInt8} (h : IsFatal nesting bytes)
    (more : List UInt8) : IsFatal nesting (bytes ++ more) :=
  h.imp fun _ hwhat => Rpc.drain_append_error hwhat more

theorem unread_eq {w : World} {p : Process} (h : w.processes = [p]) :
    w.unread = p.stdout.buffer := by
  rw [unread, h]
  rfl

section

variable {r : Reception} {written : List UInt8} {w : World} {c : Channel} {p : Process}
  {t : Tasks.Task Point}

/-- Nothing was read: what was written waits behind the rest. -/
theorem Delivering.follow (h : Delivering r written w c p t) (w' : World) {c' : Channel}
    {p' : Process} {t' : Tasks.Task Point} (hchannels : w'.channels = [c']) (hc : c.Follows c')
    (hprocesses : w'.processes = [p']) (hp : p.Follows p')
    (hreader : w'.tasks.tasks[0]? = some t')
    (hstack : t.stack = [] → t'.stack = [])
    (hreads : t'.stack = [] ∨ ∃ point, t'.stack = [point] ∧ point.isReading)
    (hover : t'.stack = [] → t.stack = [] ∨ c'.closing ∨ IsExhausted r.nesting written p)
    (haside : ∀ (i : Nat) (u : Tasks.Task Point), w'.tasks.tasks[i]? = some u → i ≠ 0 →
      ∀ point ∈ u.stack, point.isAside)
    (hframes : w'.record.frames = w.record.frames) (hexits : w'.record.exits = w.record.exits)
    (hwork : c.closing = false → c'.closing ∨ ∃ waiters, AtWork waiters w') :
    Delivering r (written ++ w'.unread.drop w.unread.length) w' c' p' t' := by
  obtain ⟨new, hnew, hended⟩ := hp.written
  have hwritten : w'.unread.drop w.unread.length = new := by
    rw [unread_eq hprocesses, unread_eq h.processes, hnew, List.drop_left]
  rw [hwritten]
  have hexhausted (hold : IsExhausted r.nesting written p) :
      IsExhausted r.nesting (written ++ new) p' := by
    rcases hold with ⟨hend, hempty⟩ | hfatal
    · exact .inl ⟨hp.ended hend, by rw [hnew, hempty, hended hend]; rfl⟩
    · exact .inr (hfatal.append new)
  -- Nothing was read, so what was written since stands behind the rest that was there.
  obtain ⟨heard, rest, messages, left, haccounts⟩ := h.accounts
  refine ⟨hchannels, ?_, by rw [hc.decoder, h.decoder], hprocesses, hp.fault.trans h.fault, hp.code,
    hreader, hreads, haside, ⟨heard, rest ++ new, messages, left, ?_⟩, hexits ▸ h.exits, fun hne => ?_, ?_⟩
  · rw [hc.owner]
    exact h.owner
  · refine ⟨by rw [haccounts.whole, List.append_assoc], haccounts.drained,
      hframes.trans haccounts.delivered, ?_⟩
    rcases haccounts.waits with ⟨hrest, hleft⟩ | ⟨hempty, hfatal⟩
    · exact .inl ⟨by rw [hrest, hnew], by rw [hc.decoder, hleft]⟩
    · exact .inr ⟨hstack hempty, hfatal.append new⟩
  · obtain ⟨hclosing, hempty, hold⟩ := h.reported (hexits ▸ hne)
    exact ⟨hc.closing hclosing, hstack hempty, hexhausted hold⟩
  · rcases h.work with hclosing | ⟨-, hold⟩
    · exact .inl (hc.closing hclosing)
    · cases hopen : c.closing with
      | true => exact .inl (hc.closing hopen)
      | false =>
        rcases hwork hopen with hclosing | hatwork
        · exact .inl hclosing
        · by_cases hclosing : c'.closing
          · exact .inl hclosing
          · refine .inr ⟨hatwork, fun hempty => hexhausted ?_⟩
            rcases hover hempty with hold' | hclosing' | hexhausted
            · exact hold hold'
            · exact absurd hclosing' hclosing
            · exact hexhausted

/-- Where other tasks stand when tasks were added. -/
theorem getElem?_of_stacks {base s : Scheduler Point Answer Hook} {added : List Point}
    (hstacks : s.tasks.map (·.stack) = base.tasks.map (·.stack) ++ added.map ([·])) {i : Nat}
    {u : Tasks.Task Point} (hu : s.tasks[i]? = some u) :
    (∃ v, base.tasks[i]? = some v ∧ u.stack = v.stack) ∨
      base.tasks.length ≤ i ∧ ∃ point ∈ added, u.stack = [point] := by
  have hget := congrArg (·[i]?) hstacks
  simp only [List.getElem?_map, hu, Option.map_some, List.getElem?_append, List.length_map] at hget
  split at hget
  · obtain ⟨v, hv, hstack⟩ := Option.map_eq_some_iff.1 hget.symm
    exact .inl ⟨v, hv, hstack.symm⟩
  · rename_i hge
    obtain ⟨point, hpoint, hstack⟩ := Option.map_eq_some_iff.1 hget.symm
    exact .inr ⟨Nat.le_of_not_lt hge, point, List.mem_of_getElem? hpoint, hstack.symm⟩

theorem exists_getElem?_of_stacks {base s : Scheduler Point Answer Hook} {added : List Point}
    (hstacks : s.tasks.map (·.stack) = base.tasks.map (·.stack) ++ added.map ([·])) {i : Nat}
    {u : Tasks.Task Point} (hu : base.tasks[i]? = some u) :
    ∃ v, s.tasks[i]? = some v ∧ v.stack = u.stack := by
  have hget := congrArg (·[i]?) hstacks
  have hlt := (List.getElem?_eq_some_iff.1 hu).1
  simp only [List.getElem?_map, List.getElem?_append, List.length_map, hlt, if_true, hu,
    Option.map_some] at hget
  exact Option.map_eq_some_iff.1 hget

/-- A channel that nobody closes is at work. -/
theorem Delivering.atWork (h : Delivering r written w c p t) (hopen : c.closing = false) :
    ∃ waiters, AtWork waiters w := by
  rcases h.work with hclosing | ⟨hatwork, -⟩
  · rw [hopen] at hclosing
    cases hclosing
  · exact hatwork

/-- Something happened beside the reader. -/
theorem Delivering.beside (h : Delivering r written w c p t) {w' : World} (hbeside : Beside w c p w')
    (hwork : c.closing = false → ∃ waiters, AtWork waiters w') :
    Advances r written w c w' := by
  obtain ⟨c', hchannels, hc⟩ := hbeside.channel
  obtain ⟨p', hprocesses, hp⟩ := hbeside.process
  obtain ⟨added, hadded, hstacks⟩ := hbeside.positions
  obtain ⟨t', hreader, hstack⟩ := exists_getElem?_of_stacks hstacks h.reader
  have hfollow := h.follow w' hchannels hc hprocesses hp hreader (hstack ▸ ·) (hstack ▸ h.reads)
    (fun hempty => .inl (hstack ▸ hempty)) ?_ hbeside.frames hbeside.exits
    fun hopen => .inr (hwork hopen)
  · exact ⟨⟨c', p', t', hfollow, hc.closing⟩,
      fun hclosing => ⟨hbeside.exits, hbeside.handed hclosing⟩⟩
  · intro i u hu hi
    rcases getElem?_of_stacks hstacks hu with ⟨v, hv, heq⟩ | ⟨-, point, hpoint, heq⟩
    · rw [heq]
      exact h.aside i v hv hi
    · rw [heq]
      exact fun other hother => List.mem_singleton.1 hother ▸ hadded point hpoint

/-- Something was done from outside that leaves the output unread. -/
theorem Delivering.act (h : Delivering r written w c p t) {act : Act Unit}
    (hbeside : Keeps (Beside w c p) act) (hwork : ∀ waiters, Keeps (AtWork waiters) act) :
    Advances r written w c (w.perform act) :=
  h.beside (hbeside w (.refl h.channels h.processes h.code)).1 fun hopen =>
    (h.atWork hopen).imp fun waiters hw => (hwork waiters w hw).1

/-- Nothing but the queue, the time and what runs has changed. -/
theorem Delivering.setTasks (h : Delivering r written w c p t) {tasks : Scheduler Point Answer Hook}
    (htasks : tasks.tasks = w.tasks.tasks)
    (hwork : ∀ waiters, Undisturbed w.tasks waiters → Undisturbed tasks waiters) :
    Delivering r written { w with tasks } c p t :=
  { h with
    reader := htasks ▸ h.reader
    aside := htasks ▸ h.aside
    accounts := h.accounts
    work := h.work.imp id <| And.imp_left fun hatwork =>
      hatwork.imp fun waiters hw => hw.setTasks (hwork waiters hw.tasks) }

/-- Nothing was written or recorded. -/
theorem Delivering.advances {w' : World} {c' : Channel} {p' : Process} {t' : Tasks.Task Point}
    (h : Delivering r written w' c' p' t') (hunread : w'.unread.length ≤ w.unread.length)
    (hclosing : c.closing → c'.closing)
    (hrecord : c.closing → w'.record.exits = w.record.exits ∧ w'.record.handed = w.record.handed) :
    Advances r written w c w' := by
  refine ⟨⟨c', p', t', ?_, hclosing⟩, hrecord⟩
  rwa [List.drop_of_length_le hunread, List.append_nil]

/-- What comes from outside leaves the output unread. -/
theorem Delivering.passage (h : Delivering r written w c p t) {passage : Passage}
    (hstep : passage ≠ .step) : Advances r written w c (w.perform passage.act) := by
  cases passage with
  | step => exact absurd rfl hstep
  | close =>
    refine h.act (.get_bind fun w' _ => ?_) fun waiters => .get_bind fun w' _ => ?_
    · split
      · exact .seq (spawn_beside rfl) fun _ => .pure trivial
      · exact .pure trivial
    · split
      · exact fun w hw => ⟨hw.setTasks (hw.tasks.spawn rfl rfl rfl), trivial⟩
      · exact .pure trivial
  | send payload => exact h.act (send_beside payload) fun _ => send_atWork 0 payload
  | output bytes => exact h.act (writeOutput_beside 0 bytes) fun _ => writeOutput_atWork 0 bytes
  | errors bytes => exact h.act (writeErrors_beside 0 bytes) fun _ => writeErrors_atWork 0 bytes
  | exit code => exact h.act (quit_beside 0 code) fun _ => quit_atWork 0 code
  | time moment =>
    have hmoved : (w.tasks.moveTo moment).tasks = w.tasks.tasks :=
      (w.tasks.moveTo_same moment).2.1
    exact (h.setTasks hmoved fun waiters hw => hw.moveTo moment).advances (Nat.le_refl _) id
      fun _ => ⟨rfl, rfl⟩

/-! ## What was caused happens -/

theorem happenHook_beside (hook : Hook) : Keeps (Beside w c p) (happenHook hook) := by
  cases hook with
  | forget channel request => exact updateChannel_beside channel fun _ => ⟨rfl, rfl, id⟩
  | retire task =>
    exact fun w' hw' =>
      ⟨⟨hw'.channel, hw'.process, hw'.frames, hw'.exits, hw'.handed, hw'.running, hw'.positions⟩,
        trivial⟩
  | write process bytes => exact writeOutput_beside process bytes
  | quit process code => exact quit_beside process code

/-- A notice happens that wakes no task. -/
theorem happen_beside {notice : Notice Hook} (h : ∀ task, notice ≠ .wake task) :
    Keeps (Beside w c p) (happen notice) := by
  cases notice with
  | wake task => exact absurd rfl (h task)
  | release promise => exact settle_beside promise _
  | relay source target =>
    refine .get_bind fun w' _ => ?_
    split
    · exact settle_beside target _
    · exact .pure trivial
  | tally promise => exact modifyTasks_beside fun _ =>
      (Scheduler.countDown_same _ promise).imp id fun heq => by rw [heq]
  | hook hook => exact happenHook_beside hook

/-- A task goes on where it waited; one that is given up before it has begun is over. -/
theorem Delivering.wake (h : Delivering r written w c p t) (i : Nat)
    (hwork : c.closing = false → ∃ waiters, AtWork waiters { w with tasks := w.tasks.resume i }) :
    Advances r written w c { w with tasks := w.tasks.resume i } := by
  -- Where a task stands that has been woken.
  have hwoken : ∀ (j : Nat) (v : Tasks.Task Point), w.tasks.tasks[j]? = some v →
      ∃ v', (w.tasks.resume i).tasks[j]? = some v' ∧
        (v'.stack = v.stack ∨ v'.stack = [] ∧ v.interrupted = true) := by
    intro j v hv
    rcases w.tasks.resume_eq_or i with heq | ⟨u, outcome, hu, -, heq⟩ <;> rw [heq]
    · exact ⟨v, hv, .inl rfl⟩
    · by_cases hsame : i = j
      · subst hsame
        obtain rfl := Option.some.inj (hu.symm.trans hv)
        refine ⟨_, List.getElem?_set_self (List.getElem?_eq_some_iff.1 hu).1, ?_⟩
        cases hinterrupted : u.interrupted with
        | false => exact .inl (u.stack_woken (.inl hinterrupted))
        | true =>
          cases hbegun : u.begun with
          | false => exact .inr ⟨by simp [Tasks.Task.woken, hinterrupted, hbegun], rfl⟩
          | true => exact .inl (u.stack_woken (.inr hbegun))
      · exact ⟨v, by rwa [List.getElem?_set_ne hsame], .inl rfl⟩
  have hlength : (w.tasks.resume i).tasks.length = w.tasks.tasks.length := by
    rcases w.tasks.resume_eq_or i with heq | ⟨u, outcome, -, -, heq⟩ <;> rw [heq]
    exact List.length_set
  obtain ⟨t', hreader, hstack⟩ := hwoken 0 t h.reader
  have hfollow := h.follow { w with tasks := w.tasks.resume i } h.channels (.refl c)
    h.processes (.refl h.code) hreader ?_ ?_ ?_ ?_ rfl rfl fun hopen => .inr (hwork hopen)
  · exact ⟨⟨c, p, t', hfollow, id⟩, fun _ => ⟨rfl, rfl⟩⟩
  · exact fun hempty => hstack.elim (·.trans hempty) And.left
  · rcases hstack with heq | ⟨hempty, -⟩
    · exact heq ▸ h.reads
    · exact .inl hempty
  · intro hempty
    rcases hstack with heq | ⟨-, hinterrupted⟩
    · exact .inl (heq ▸ hempty)
    -- While the channel is at work, no task is given up.
    rcases h.work with hclosing | ⟨⟨waiters, hatwork⟩, -⟩
    · exact .inr (.inl hclosing)
    · rw [hatwork.tasks.eager t (List.mem_of_getElem? h.reader)] at hinterrupted
      cases hinterrupted
  · intro j u hu hj
    have hlt := hlength ▸ (List.getElem?_eq_some_iff.1 hu).1
    obtain ⟨v', hv', hcases⟩ := hwoken j _ (List.getElem?_eq_getElem hlt)
    obtain rfl := Option.some.inj (hu.symm.trans hv')
    rcases hcases with heq | ⟨hempty, -⟩
    · rw [heq]
      exact h.aside j _ (List.getElem?_eq_getElem hlt) hj
    · rw [hempty]
      exact fun _ hin => absurd hin List.not_mem_nil

/-- What is next in the queue happens. -/
theorem Delivering.notice (h : Delivering r written w c p t) (hidle : w.tasks.running = none) :
    Advances r written w c w.step := by
  cases htake : w.tasks.takeNotice with
  | none =>
    have hstep : w.step = w := by
      simp only [step, perform, stepAct, run_bind, run_get, hidle, htake]
      rfl
    rw [hstep]
    exact h.advances (Nat.le_refl _) id fun _ => ⟨rfl, rfl⟩
  | some pair =>
    obtain ⟨notice, tasks⟩ := pair
    have hstep : w.step = ((happen notice).run { w with tasks }).2 := by
      simp only [step, perform, stepAct, run_bind, run_get, hidle, htake]
      rfl
    have hnext : Delivering r written { w with tasks } c p t :=
      h.setTasks (Scheduler.takeNotice_same htake).2.1 fun waiters hw => (hw.takeNotice htake).1
    have hwork (hopen : c.closing = false) :
        ∃ waiters, AtWork waiters ((happen notice).run { w with tasks }).2 := by
      obtain ⟨waiters, hw⟩ := h.atWork hopen
      obtain ⟨hundisturbed, hready, hsettled⟩ := hw.tasks.takeNotice htake
      exact ⟨waiters,
        happen_atWork (hw.setTasks hundisturbed) (hsettled ▸ hw.tasks.ready notice hready)⟩
    rw [hstep]
    -- Only a task that is woken can be the reader; whatever else happens does so beside it.
    by_cases hwake : ∃ task, notice = .wake task
    · obtain ⟨task, rfl⟩ := hwake
      exact hnext.wake task hwork
    · refine hnext.beside ?_ hwork
      exact (happen_beside (fun task heq => hwake ⟨task, heq⟩) _
        (.refl hnext.channels hnext.processes hnext.code)).1

end

end BasiliskServer.World
