import BasiliskServer.Proofs.World.Shapes

/-!
# Requests and queues

What a layout says of the requests sent through its channels is kept by the wires: who waits for the
answers, and which methods were asked for. Only sending a request and making a channel changes them.
Queues and listeners belong to connections; whatever happens, a connection that is ready has an empty
queue (`Course.tended`, `Layout.Notifies.tended`), and how much connections may write stays as it is
(`Course.retains`).
-/

namespace BasiliskServer.World

open Json (Value Fields)

/-! ## What is said -/

namespace Layout

section

variable {α : Type} {view : Layout → α} (h : ∀ (l : Layout) (spoken : List (Nat × Fields)),
  view { l with spoken } = view l) (l : Layout) (channel : Nat)

include h

/-- What does not depend on what is said is the same when something is said. -/
theorem view_say (said : Option Fields) : view (l.say channel said) = view l := by
  unfold say
  split
  · unfold tell
    split
    · exact h l _
    · rfl
  · rfl

theorem view_tellOf (method : String) (params : Value) :
    view (l.tellOf channel method params) = view l :=
  view_say h _ _ _

theorem view_sayAll (queue : List (String × Value)) : view (l.sayAll channel queue) = view l := by
  induction queue generalizing l with
  | nil => rfl
  | cons entry rest ih => exact (ih _).trans (view_tellOf h _ _ _ _)

end

end Layout

/-! ## Wires -/

/-- What was asked for through a channel. -/
structure Wiring where
  /-- The promises of the answers. -/
  answers : List Nat
  /-- The methods of the requests. -/
  methods : List String

/-- What was asked for through a channel. -/
def Pipe.wire (p : Pipe) : Wiring :=
  ⟨p.answers, p.requests.sent.map (·.method)⟩

/-- Another request was sent. -/
def Wiring.ask (wire : Wiring) (method : String) (answer : Nat) : Wiring :=
  ⟨wire.answers ++ [answer], wire.methods ++ [method]⟩

namespace Layout

/-- What was asked for through the channels. -/
def wires (l : Layout) : List Wiring :=
  l.pipes.map Pipe.wire

variable (l : Layout) (number channel : Nat)

theorem wires_setPipe_same {change : Pipe → Pipe} (h : ∀ p, (change p).wire = p.wire) :
    (l.setPipe channel change).wires = l.wires := by
  simp [wires, setPipe, map_modify_of_eq h]

@[simp]
theorem wires_setBond (change : Bond → Bond) : (l.setBond number change).wires = l.wires :=
  rfl

@[simp]
theorem wires_clear : (l.clear number).wires = l.wires :=
  rfl

@[simp]
theorem wires_reset : (l.reset number).wires = l.wires :=
  rfl

@[simp]
theorem wires_setPhase (phase : Phase) : (l.setPhase number phase).wires = l.wires :=
  rfl

@[simp]
theorem wires_report (told : List (Option Int)) : (l.report told).wires = l.wires :=
  rfl

@[simp]
theorem wires_addScript (script : CompanionScript) : (l.addScript script).wires = l.wires :=
  rfl

@[simp]
theorem wires_addBond (config : Companion.Config) (listener : Listener) (kept : Option Nat) :
    ({ l.addBond config listener with kept } : Layout).wires = l.wires :=
  rfl

@[simp]
theorem wires_vacate : ({ l with kept := none } : Layout).wires = l.wires :=
  rfl

@[simp]
theorem wires_shut : (l.shut channel).wires = l.wires :=
  wires_setPipe_same _ _ fun _ => rfl

@[simp]
theorem wires_carry (process : Option Nat) : (l.carry channel process).wires = l.wires :=
  wires_setPipe_same _ _ fun _ => rfl

@[simp]
theorem wires_rejectAll (failure : Failure) : (l.rejectAll channel failure).wires = l.wires := by
  refine wires_setPipe_same _ _ fun p => ?_
  simp only [Pipe.wire, Rpc.Requests.rejectAll, List.map_map, Wiring.mk.injEq, true_and]
  refine List.map_congr_left fun request _ => ?_
  simp only [Function.comp]
  split <;> rfl

@[simp]
theorem wires_rejectOn (channel : Option Nat) (failure : Failure) :
    (l.rejectOn channel failure).wires = l.wires := by
  cases channel with
  | none => rfl
  | some channel => exact wires_rejectAll _ _ _

@[simp]
theorem wires_say (said : Option Fields) : (l.say channel said).wires = l.wires :=
  view_say (fun _ _ => rfl) _ _ _

@[simp]
theorem wires_tellOf (method : String) (params : Value) :
    (l.tellOf channel method params).wires = l.wires :=
  wires_say _ _ _

@[simp]
theorem wires_sayAll (queue : List (String × Value)) : (l.sayAll channel queue).wires = l.wires :=
  view_sayAll (fun _ _ => rfl) _ _ _

@[simp]
theorem wires_list (method : String) (answer : Nat) :
    (l.list channel method answer).wires = l.wires.modify channel (·.ask method answer) := by
  rw [wires, list, setPipe, wires]
  refine map_modify_of_comm fun p => ?_
  simp [Pipe.wire, Wiring.ask, Rpc.Requests.request]

@[simp]
theorem wires_ask (room : Option Nat) (method : String) (params : Value) (answer : Nat) :
    (l.ask room channel method params answer).wires =
      l.wires.modify channel (·.ask method answer) := by
  unfold ask
  cases hpipe : l.pipes[channel]? with
  | none =>
    have hge := List.getElem?_eq_none_iff.1 hpipe
    rw [List.modify_eq_self (by simpa [wires] using hge)]
  | some pipe => rw [wires_say, wires_list]

@[simp]
theorem wires_beginStart (started : Nat) :
    (l.beginStart number started).wires = l.wires ++ [⟨[], []⟩] := by
  simp [beginStart, addPipe, setBond, wires, Pipe.wire]

@[simp]
theorem wires_welcome (bond : Bond) : (l.welcome number channel bond).wires = l.wires := by
  simp [welcome]

variable {l number channel} {l' : Layout} {f : Facts} {next : Next}

theorem Hears.wires_eq (h : l.Hears l') : l'.wires = l.wires := by
  refine List.ext_getElem? fun i => ?_
  simp only [wires, List.getElem?_map]
  cases hpipe : l.pipes[i]? with
  | none =>
    have hge := List.getElem?_eq_none_iff.1 hpipe
    rw [List.getElem?_eq_none_iff.2 (h.length ▸ hge)]
  | some pipe =>
    obtain ⟨requests, hpipe', hturned⟩ := h.pipes i pipe hpipe
    rw [hpipe']
    simp [Pipe.wire, hturned.methods]

theorem Notifies.wires_eq {method : String} {params : Value} (h : l.Notifies number method params l') :
    l'.wires = l.wires := by
  cases h with
  | tells => exact wires_tellOf _ _ _ _
  | refuses => rfl
  | drops => rfl
  | queues => rfl

theorem Loses.wires_eq {code : Option Int} (h : l.Loses channel code l') : l'.wires = l.wires := by
  cases h <;> simp

theorem Subsides.wires_eq (h : l.Subsides channel l' next) : l'.wires = l.wires := by
  cases h <;> simp

theorem Closes.wires_eq (h : l.Closes f channel l' next) : l'.wires = l.wires := by
  cases h with
  | bare => rfl
  | subsides _ _ h => simpa using h.wires_eq
  | asks => simp

theorem wires_getElem? (l : Layout) (channel : Nat) :
    l.wires[channel]? = (l.pipes[channel]?).map Pipe.wire := by
  simp [wires]

theorem wire_of_pipe {l : Layout} {channel : Nat} {pipe : Pipe}
    (hpipe : l.pipes[channel]? = some pipe) : l.wires[channel]? = some pipe.wire := by
  rw [wires_getElem?, hpipe, Option.map_some]

end Layout

/-- Where nobody acts, nothing is asked for. -/
theorem Drifts.wires_eq {w w' : World} {notice : Option (Nat × String × Value)}
    (h : Drifts w w' notice) : w'.layout.wires = w.layout.wires := by
  rcases h.layout with hhears | ⟨_, _, _, -, hnotifies⟩
  · exact hhears.wires_eq
  · exact hnotifies.wires_eq

/-! ## Queues and listeners -/

/-- A connection that is ready has an empty queue, and what becomes of its processes is recorded. -/
structure Bond.IsTended (b : Bond) : Prop where
  /-- Nothing waits where it is ready. -/
  queue : b.phase = .ready → b.queue = []
  /-- What becomes of its processes is recorded. -/
  listener : b.listener = .recorder

namespace Layout

/-- All connections that are ready have empty queues, and what becomes of processes is recorded. -/
def IsTended (l : Layout) : Prop :=
  ∀ (number : Nat) (bond : Bond), l.bonds[number]? = some bond → bond.IsTended

variable (l : Layout) (number channel : Nat)

@[simp]
theorem bonds_setPipe (change : Pipe → Pipe) : (l.setPipe channel change).bonds = l.bonds :=
  rfl

@[simp]
theorem bonds_rejectOn (channel : Option Nat) (failure : Failure) :
    (l.rejectOn channel failure).bonds = l.bonds := by
  cases channel <;> rfl

@[simp]
theorem bonds_say (said : Option Fields) : (l.say channel said).bonds = l.bonds :=
  view_say (fun _ _ => rfl) _ _ _

@[simp]
theorem bonds_tellOf (method : String) (params : Value) :
    (l.tellOf channel method params).bonds = l.bonds :=
  bonds_say _ _ _

@[simp]
theorem bonds_sayAll (queue : List (String × Value)) : (l.sayAll channel queue).bonds = l.bonds :=
  view_sayAll (fun _ _ => rfl) _ _ _

@[simp]
theorem bonds_ask (room : Option Nat) (method : String) (params : Value) (answer : Nat) :
    (l.ask room channel method params answer).bonds = l.bonds := by
  unfold ask
  split
  · rfl
  · exact bonds_say _ _ _

variable {l number channel} {l' : Layout} {f : Facts} {next : Next}

theorem Subsides.bonds_eq (h : l.Subsides channel l' next) : l'.bonds = l.bonds := by
  cases h <;> rfl

theorem Closes.bonds_eq (h : l.Closes f channel l' next) : l'.bonds = l.bonds := by
  cases h with
  | bare => rfl
  | subsides _ _ h => exact h.bonds_eq
  | asks => rfl

namespace IsTended

theorem of_bonds (h : l.IsTended) (hbonds : l'.bonds = l.bonds) : l'.IsTended := by
  intro number bond hbond
  rw [hbonds] at hbond
  exact h number bond hbond

theorem setBond (h : l.IsTended) {change : Bond → Bond}
    (hlistener : ∀ bond, (change bond).listener = bond.listener)
    (hqueue : ∀ bond, l.bonds[number]? = some bond → (change bond).phase = .ready →
      (change bond).queue = []) : (l.setBond number change).IsTended := by
  intro other bond hbond
  obtain ⟨old, hold, ⟨rfl, rfl⟩ | ⟨-, rfl⟩⟩ := Tasks.getElem?_modify_cases hbond
  · exact ⟨hqueue old hold, (hlistener old).trans (h _ old hold).listener⟩
  · exact h other bond hold

theorem clear (h : l.IsTended) : (l.clear number).IsTended :=
  h.setBond (fun _ => rfl) fun _ _ _ => rfl

theorem reset (h : l.IsTended) : (l.reset number).IsTended :=
  h.setBond (fun _ => rfl) fun _ _ _ => rfl

theorem setPhase (h : l.IsTended) {phase : Phase} (hphase : phase ≠ .ready) :
    (l.setPhase number phase).IsTended :=
  h.setBond (fun _ => rfl) fun _ _ hready => absurd hready hphase

end IsTended

theorem Loses.tended {code : Option Int} (h : l.Loses channel code l') (htended : l.IsTended) :
    l'.IsTended := by
  have hshut : ((l.shut channel).carry channel none).IsTended := htended.of_bonds rfl
  cases h with
  | expected => exact htended
  | unheard => exact hshut
  | stopping => exact (hshut.of_bonds (bonds_rejectOn _ _ _)).clear
  | stops => exact ((hshut.of_bonds (bonds_rejectOn _ _ _)).clear.reset).of_bonds rfl

theorem Disconnects.tended (h : l.Disconnects f number l' next) (htended : l.IsTended) :
    l'.IsTended := by
  have hstopping : (l.setPhase number .stopping).IsTended := htended.setPhase nofun
  cases h with
  | keeps => exact htended
  | clears => exact htended.clear
  | parts => exact hstopping.of_bonds (bonds_ask ..)
  | closes _ _ _ hcloses =>
    cases hcloses with
    | nothing => exact hstopping
    | closes hcloses => exact hstopping.of_bonds hcloses.bonds_eq

theorem Connects.tended (h : l.Connects number l' next) (htended : l.IsTended) : l'.IsTended := by
  cases h with
  | keeps => exact htended
  | begins =>
    have hadded : (l.addPipe (.connection number)).IsTended := htended.of_bonds rfl
    exact hadded.setBond (fun _ => rfl) fun _ _ hready => by cases hready

/-- A notification waits only where the connection is not ready. -/
theorem Notifies.tended {method : String} {params : Value} (h : l.Notifies number method params l')
    (htended : l.IsTended)
    (hchannel : ∀ bond, l.bonds[number]? = some bond → bond.phase = .ready → bond.channel.isSome) :
    l'.IsTended := by
  cases h with
  | tells => exact htended.of_bonds (bonds_tellOf _ _ _ _)
  | refuses => exact htended
  | drops => exact htended
  | queues hbond _ hnot =>
    refine htended.setBond (fun _ => rfl) fun bond hbond hready => ?_
    obtain ⟨channel, hsome⟩ := Option.isSome_iff_exists.1 (hchannel bond hbond hready)
    exact absurd ⟨bond, hbond, hready, hsome⟩ (hnot channel)

end Layout

/-- Connections that are ready have empty queues, whatever course a task takes. -/
theorem Course.tended {f f' : Facts} {l l' : Layout} {point : Point} {outcome : Outcome} {next : Next}
    (h : Course f f' l point outcome l' next) (hpoint : ∀ other, point ≠ .keeper other)
    (htended : l.IsTended) : l'.IsTended := by
  cases h with
  | hears _ _ hhears => exact htended.of_bonds (by rw [hhears.rest])
  | loses _ hloses => exact hloses.tended htended
  | sends => exact htended.of_bonds (Layout.bonds_ask ..)
  | connects hconnects => exact hconnects.tended htended
  | disconnects hdisconnects => exact hdisconnects.tended htended
  | complies _ hsubsides => exact htended.of_bonds hsubsides.bonds_eq
  | buries hsubsides => exact htended.of_bonds hsubsides.bonds_eq
  | greets => exact htended.of_bonds (Layout.bonds_ask ..)
  | abandons _ hcloses => exact htended.of_bonds hcloses.bonds_eq
  | fails => exact htended.reset
  | welcomes =>
    rename_i number channel greeted bond _ _ _ _ _
    have hready : ((l.setPhase number .ready).clear number).IsTended := by
      -- Both changes of a welcome together leave the connection ready with an empty queue.
      have hboth : (l.setPhase number .ready).clear number =
          l.setBond number fun b => { b with phase := .ready, queue := [] } := by
        simp [Layout.setPhase, Layout.clear, Layout.setBond, List.modify_modify_eq, Function.comp_def]
      rw [hboth]
      exact htended.setBond (fun _ => rfl) fun _ _ _ => rfl
    refine hready.of_bonds ?_
    simp [Layout.welcome, Layout.clear, Layout.setBond]
  | refuses _ hcloses => exact htended.of_bonds hcloses.bonds_eq
  | dismisses => exact htended.reset
  | parts _ hcloses => exact htended.of_bonds (hcloses.bonds_eq.trans (Layout.bonds_tellOf _ _ _ _))
  | closed => exact (htended.of_bonds (Layout.bonds_rejectOn _ _ _)).reset
  | vacates => exact absurd rfl (hpoint _)
  | renews => exact absurd rfl (hpoint _)
  | leaves => exact absurd rfl (hpoint _)
  | _ => exact htended.of_bonds rfl

/-! ## What connections may write -/

namespace Layout

/-- Connections may write as much as before; a new one may write anything. -/
def Retains (l l' : Layout) : Prop :=
  ∀ (number : Nat) (bond : Bond), l'.bonds[number]? = some bond →
    bond.room = none ∨ ∃ old, l.bonds[number]? = some old ∧ bond.room = old.room

/-- Every connection writes everything. -/
def IsFree (l : Layout) : Prop :=
  ∀ (number : Nat) (bond : Bond), l.bonds[number]? = some bond → bond.room = none

variable {l l' l'' : Layout} {f : Facts} {number channel : Nat} {next : Next}

namespace Retains

theorem of_bonds (h : l'.bonds = l.bonds) : l.Retains l' :=
  fun _ bond hbond => .inr ⟨bond, h ▸ hbond, rfl⟩

protected theorem refl (l : Layout) : l.Retains l :=
  of_bonds rfl

protected theorem trans (h : l.Retains l') (h' : l'.Retains l'') : l.Retains l'' := by
  intro number bond hbond
  obtain hnone | ⟨old, hold, hroom⟩ := h' number bond hbond
  · exact .inl hnone
  · rw [hroom]
    exact h number old hold

theorem setBond (l : Layout) (number : Nat) {change : Bond → Bond}
    (h : ∀ bond, (change bond).room = bond.room) : l.Retains (l.setBond number change) := by
  intro other bond hbond
  obtain ⟨old, hold, ⟨-, rfl⟩ | ⟨-, rfl⟩⟩ := Tasks.getElem?_modify_cases hbond
  · exact .inr ⟨old, hold, h old⟩
  · exact .inr ⟨_, hold, rfl⟩

theorem setPhase (l : Layout) (number : Nat) (phase : Phase) : l.Retains (l.setPhase number phase) :=
  setBond l number fun _ => rfl

theorem clear (l : Layout) (number : Nat) : l.Retains (l.clear number) :=
  setBond l number fun _ => rfl

theorem reset (l : Layout) (number : Nat) : l.Retains (l.reset number) :=
  setBond l number fun _ => rfl

theorem beginStart (l : Layout) (number started : Nat) : l.Retains (l.beginStart number started) := by
  have hadded : l.Retains (l.addPipe (.connection number)) := of_bonds rfl
  unfold Layout.beginStart
  exact hadded.trans (setBond _ number fun _ => rfl)

theorem addBond (l : Layout) (config : Companion.Config) (listener : Listener) (kept : Option Nat) :
    l.Retains { l.addBond config listener with kept } := by
  intro number bond hbond
  obtain hold | ⟨-, rfl⟩ := Tasks.getElem?_concat_cases hbond
  · exact .inr ⟨bond, hold, rfl⟩
  · exact .inl rfl

/-- Connections go on writing everything. -/
theorem free (h : l.Retains l') (hfree : l.IsFree) : l'.IsFree := by
  intro number bond hbond
  obtain hnone | ⟨old, hold, hroom⟩ := h number bond hbond
  · exact hnone
  · exact hroom.trans (hfree number old hold)

end Retains

theorem Hears.retains (h : l.Hears l') : l.Retains l' :=
  .of_bonds (by rw [h.rest])

theorem Notifies.retains {method : String} {params : Value}
    (h : l.Notifies number method params l') : l.Retains l' := by
  cases h with
  | tells => exact .of_bonds (bonds_tellOf _ _ _ _)
  | refuses => exact .refl l
  | drops => exact .refl l
  | queues => exact .setBond l number fun _ => rfl

theorem Loses.retains {code : Option Int} (h : l.Loses channel code l') : l.Retains l' := by
  have hrejected (line : Option Nat) : l.Retains
      (((l.shut channel).carry channel none).rejectOn line (.exited code)) :=
    .of_bonds (bonds_rejectOn _ _ _)
  cases h with
  | expected => exact .refl l
  | unheard => exact .of_bonds rfl
  | stopping => exact (hrejected _).trans (.clear _ _)
  | stops =>
    exact (((hrejected _).trans (.clear _ _)).trans (.reset _ _)).trans (.of_bonds rfl)

theorem Connects.retains (h : l.Connects number l' next) : l.Retains l' := by
  cases h with
  | keeps => exact .refl l
  | begins => exact .beginStart l number _

theorem Disconnects.retains (h : l.Disconnects f number l' next) : l.Retains l' := by
  have hstopping := Retains.setPhase l number .stopping
  cases h with
  | keeps => exact .refl l
  | clears => exact .clear l number
  | parts => exact hstopping.trans (.of_bonds (bonds_ask ..))
  | closes _ _ _ hcloses =>
    cases hcloses with
    | nothing => exact hstopping
    | closes hcloses => exact hstopping.trans (.of_bonds hcloses.bonds_eq)

theorem Vacates.retains (h : l.Vacates f l' next) : l.Retains l' := by
  cases h with
  | vacant => exact .refl l
  | leaves _ hleaves =>
    have hvacated : l.Retains { l with kept := none } := .of_bonds rfl
    exact hvacated.trans hleaves.retains

theorem retains_welcome (l : Layout) (number channel : Nat) (bond : Bond) :
    l.Retains (l.welcome number channel bond) := by
  have hready := Retains.setPhase l number .ready
  refine ((hready.trans (.of_bonds ?_)).trans (.clear _ number)).trans (.of_bonds (bonds_sayAll ..))
  exact bonds_tellOf ..

end Layout

/-- Whatever course a task takes, connections may write as much as before. -/
theorem Course.retains {f f' : Facts} {l l' : Layout} {point : Point} {outcome : Outcome} {next : Next}
    (h : Course f f' l point outcome l' next) : l.Retains l' := by
  cases h with
  | hears _ _ hhears => exact hhears.retains
  | loses _ hloses => exact hloses.retains
  | sends => exact .of_bonds (Layout.bonds_ask ..)
  | connects hconnects => exact hconnects.retains
  | disconnects hdisconnects => exact hdisconnects.retains
  | complies _ hsubsides => exact .of_bonds hsubsides.bonds_eq
  | buries hsubsides => exact .of_bonds hsubsides.bonds_eq
  | greets => exact .of_bonds (Layout.bonds_ask ..)
  | abandons _ hcloses => exact .of_bonds hcloses.bonds_eq
  | fails => exact .reset _ _
  | welcomes => exact Layout.retains_welcome _ _ _ _
  | refuses _ hcloses => exact .of_bonds hcloses.bonds_eq
  | dismisses => exact .reset _ _
  | parts _ hcloses => exact .of_bonds (hcloses.bonds_eq.trans (Layout.bonds_tellOf _ _ _ _))
  | closed =>
    exact (Layout.Retains.of_bonds (Layout.bonds_rejectOn _ _ _)).trans (.reset _ _)
  | vacates _ hvacates => exact hvacates.retains
  | renews hrenews => exact (Layout.Retains.addBond _ _ _ _).trans hrenews.retains
  | _ => exact .of_bonds rfl

/-- Where nobody acts, connections may write as much as before. -/
theorem Drifts.retains {w w' : World} {notice : Option (Nat × String × Value)}
    (h : Drifts w w' notice) : w.layout.Retains w'.layout := by
  obtain hhears | ⟨_, _, _, -, hnotifies⟩ := h.layout
  · exact hhears.retains
  · exact hnotifies.retains

end BasiliskServer.World
