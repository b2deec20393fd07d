import NotebookExecution.Execution.Strides
import NotebookExecution.Library.Channel

/-! Whose reply a call takes. Each pipe is a channel to a worker that answers in order, so a reply
belongs to the call that takes it exactly when that call's request is the oldest one whose reply
has not been taken. -/

namespace NotebookExecution.Execution

open Library.Runs Library.Channel

variable {ν : Type} {I : Interpreter ν}

/-! ## Pipes keep their order -/

namespace Pipe

variable {p p' : Pipe}

def Ordered (p : Pipe) : Prop := InOrder p.sent p.taken (p.responses.map Message.requestId)

def Whole (p : Pipe) : Prop :=
  Complete p.sent p.taken (p.responses.map Message.requestId) (p.requests.filterMap Command.requestId)

lemma fresh_whole : fresh.Whole := Complete.empty

lemma Ordered.send (h : p.Ordered) (c : Command) : (p.send c).Ordered := InOrder.send h

lemma Whole.send (h : p.Whole) (c : Command) : (p.send c).Whole := by
  have hc : (p.requests ++ [c]).filterMap Command.requestId =
      p.requests.filterMap Command.requestId ++ c.requestId.toList := by
    cases hk : c.requestId <;> simp [hk]
  rw [Whole, Pipe.send]
  rw [hc]
  exact Complete.send h

lemma recv_eq_some {m : Message} (h : p.recv = some (m, p')) :
    ∃ rest, p.responses = m :: rest ∧ p' = { p with responses := rest, taken := p.taken + 1 } := by
  rw [recv] at h
  split at h
  · cases h
  · next m' rest hr =>
    cases h
    exact ⟨rest, hr, rfl⟩

lemma Ordered.recv {m : Message} (h : p.Ordered) (hm : p.recv = some (m, p')) :
    p'.Ordered ∧ p.sent[p.taken]? = some m.requestId := by
  obtain ⟨rest, hr, rfl⟩ := recv_eq_some hm
  have ho : InOrder p.sent p.taken (m.requestId :: rest.map Message.requestId) := by
    rw [← List.map_cons, ← hr]
    exact h
  exact ⟨ho.take, ho.head⟩

lemma Whole.recv {m : Message} (h : p.Whole) (hm : p.recv = some (m, p')) : p'.Whole := by
  obtain ⟨rest, hr, rfl⟩ := recv_eq_some hm
  have ho : Complete p.sent p.taken (m.requestId :: rest.map Message.requestId)
      (p.requests.filterMap Command.requestId) := by
    rw [← List.map_cons, ← hr]
    exact h
  exact ho.take

lemma Whole.answer {c : Command} {rest : List Command} {m : Message} (h : p.Whole)
    (hr : p.requests = c :: rest) (hc : c.requestId = some m.requestId) : (p.answer m rest).Whole := by
  have ho : Complete p.sent p.taken (p.responses.map Message.requestId)
      (m.requestId :: rest.filterMap Command.requestId) := by
    rw [← List.filterMap_cons_some hc, ← hr]
    exact h
  rw [Whole, Pipe.answer]
  rw [List.map_append]
  exact ho.answer

end Pipe

namespace PythonRuntime

variable {r r' b : PythonRuntime ν} {g : ℕ} {p : Pipe}

structure InOrder (r : PythonRuntime ν) : Prop where
  ordered : ∀ g, (r.pipes g).Ordered
  whole : r.alive = true → r.pipe.Whole

lemma ordered_update {f : ℕ → Pipe} (h : ∀ g, (f g).Ordered) (hp : p.Ordered) :
    ∀ i, (Function.update f g p i).Ordered := by
  intro i
  by_cases hi : i = g
  · subst hi
    rw [Function.update_self]
    exact hp
  · rw [Function.update_of_ne hi]
    exact h i

lemma InOrder.start (h : r.InOrder) (spawn : Spawn) : (r.start I spawn).InOrder := by
  refine ⟨ordered_update h.ordered Pipe.fresh_whole.inOrder, fun _ => ?_⟩
  rw [start_pipe]
  exact Pipe.fresh_whole

lemma InOrder.stopped (h : r.InOrder) : r.stopped.InOrder := by
  refine ⟨ordered_update h.ordered (h.ordered _), fun ha => ?_⟩
  have hp : r.stopped.pipe = r.pipe.close := Function.update_self ..
  rw [hp]
  exact h.whole ha

lemma InOrder.stop (h : r.InOrder) : r.stop.1.InOrder := by
  rw [PythonRuntime.stop]
  split
  · exact h
  · split
    · exact ⟨h.ordered, h.whole⟩
    · next ha => exact ⟨ordered_update h.ordered (h.ordered _), fun ht => absurd ht ha⟩

lemma InOrder.setPipe (h : r.InOrder) (hp : p.Ordered)
    (hw : g = r.generation → r.alive = true → p.Whole) : (r.setPipe g p).InOrder := by
  refine ⟨ordered_update h.ordered hp, fun ha => ?_⟩
  by_cases hg : r.generation = g
  · subst hg
    rw [setPipe_self]
    exact hw rfl ha
  · rw [setPipe_other hg]
    exact h.whole ha

lemma InOrder.send (h : r.InOrder) (g : ℕ) (c : Command) :
    (r.setPipe g ((r.pipes g).send c)).InOrder := by
  apply h.setPipe ((h.ordered g).send c)
  rintro rfl ha
  exact (h.whole ha).send c

lemma InOrder.recv {m : Message} (h : r.InOrder) (hm : (r.pipes g).recv = some (m, p)) :
    (r.setPipe g p).InOrder := by
  apply h.setPipe ((h.ordered g).recv hm).1
  rintro rfl ha
  exact (h.whole ha).recv hm

lemma InOrder.work {machine : Machine} (h : r.InOrder) (hw : r.work I machine = some r') :
    r'.InOrder := by
  rw [PythonRuntime.work] at hw
  split at hw
  · next ha =>
    split at hw
    · cases hw
    · next c rest hr =>
      split at hw
      · next space m hs =>
        cases hw
        have hp := (h.whole ha.1).answer hr (serveCommand_requestId hs)
        exact InOrder.setPipe ⟨h.ordered, h.whole⟩ hp.inOrder fun _ _ => hp
      · cases hw
        exact InOrder.setPipe ⟨h.ordered, fun hd => by cases hd⟩ (h.ordered _) fun _ hd => by cases hd
  · cases hw

lemma InOrder.acts {a : SessionAction} (h : r.InOrder) (ha : Acts I r a r') : r'.InOrder := by
  cases ha with
  | work hw => exact h.work hw
  | exit he =>
    obtain ⟨rfl, -⟩ := exit_cases he
    exact ⟨h.ordered, fun hd => by cases hd⟩

lemma InOrder.shut {c : OpId} {a : SessionAction} {q : Phase} (h : r.InOrder) (hs : Shut r c a q b) :
    b.InOrder := by
  cases hs with
  | idle ha hb =>
    have hst := h.stop
    rwa [hb] at hst
  | direct ha => exact h
  | joined spawn o => exact h.stopped

lemma InOrder.turn {c : OpId} {a : SessionAction} {k : Kind} {q q' : Phase} (h : r.InOrder)
    (ht : Turn I r c a k q q' r') : r'.InOrder := by
  cases ht with
  | shut ha hk hs =>
    have hst := h.stop
    rwa [hs] at hst
  | shutIdle ha hs =>
    have hst := h.stop
    rwa [hs] at hst
  | bounce e hk hs hb => exact h.shut hs
  | respawn spawn hk hs hb hq => exact (h.shut hs).start spawn
  | stopped spawn o => exact h.stopped
  | startFails e hk => exact ⟨h.ordered, h.whole⟩
  | started hk ha => exact ⟨h.ordered, h.whole⟩
  | sent ho => exact h.send _ _
  | straySent ho => exact h.send _ _
  | stopSent ho => exact h.send _ _
  | died e ha => exact ⟨h.ordered, h.whole⟩
  | took ho hm => exact h.recv hm
  | strayTook hm => exact h.recv hm
  | overdue e => exact ⟨h.ordered, h.whole⟩
  | _ => exact h

end PythonRuntime

lemma inOrder_closed :
    ExecutionSession.Closed I (fun x : ExecutionSession ν => x.runtime.InOrder) where
  created k id := by
    have hb : PythonRuntime.InOrder (⟨id, .starting, 0, false, I.blank, fun _ => .unused⟩ :
        PythonRuntime ν) := ⟨fun _ => InOrder.empty, fun h => by cases h⟩
    exact hb.start .up
  schedule x c k _ h := h
  step x a y h hy := by
    rcases ExecutionSession.step_cases hy with ⟨r, hr, rfl⟩ | ⟨c, k, p, q, -, hc⟩
    · exact h.acts hr
    · exact h.turn hc.turn
  cancel x c h := by
    rw [ExecutionSession.cancel_runtime]
    exact h

namespace ExecutionSession

variable {x y : ExecutionSession ν} {a : SessionAction} {c : OpId} {k : Kind} {m : Message}

/-- If `c` is about to take a reply, its request is the oldest one on that pipe whose reply has not
been taken. -/
def inTurn (c : OpId) (x : ExecutionSession ν) : Bool :=
  match x.ops c with
  | some ⟨_, .receiving g⟩ =>
    !(x.runtime.pipes g).opened || (x.runtime.pipes g).sent[(x.runtime.pipes g).taken]? = some c
  | _ => true

def RepliesBelong (x : ExecutionSession ν) : Prop :=
  ∀ c k m, x.ops c = some ⟨k, .returned m⟩ → m.requestId = c

lemma turn_returned {r r' : PythonRuntime ν} {p : Phase} (h : Turn I r c a k p (.returned m) r') :
    a = .recv c ∧ ∃ g pipe, p = .receiving g ∧ (r.pipes g).opened = true ∧
      (r.pipes g).recv = some (m, pipe) := by
  cases h with
  | took ho hr => exact ⟨rfl, _, _, rfl, ho, hr⟩
  | respawn spawn hk hs hb hq => cases hq

lemma returned_step (hy : x.step I a = some y) (h : y.ops c = some ⟨k, .returned m⟩) :
    x.ops c = some ⟨k, .returned m⟩ ∨ a = .recv c ∧ ∃ g p, x.ops c = some ⟨k, .receiving g⟩ ∧
      (x.runtime.pipes g).opened = true ∧ (x.runtime.pipes g).recv = some (m, p) := by
  rcases step_cases hy with ⟨r, -, rfl⟩ | ⟨d, j, p, q, hd, hm⟩
  · exact Or.inl h
  · by_cases hc : c = d
    · subst hc
      obtain ⟨rfl, rfl⟩ : j = k ∧ q = .returned m := by simpa [hm.self] using h
      obtain ⟨rfl, g, pipe, rfl, ho, hr⟩ := turn_returned hm.turn
      exact Or.inr ⟨rfl, g, pipe, hd, ho, hr⟩
    · exact Or.inl ((hm.other hc).symm.trans h)

lemma recv_returns {g : ℕ} (h : x.ops c = some ⟨k, .receiving g⟩)
    (ho : (x.runtime.pipes g).opened = true) (hy : x.step I (.recv c) = some y) :
    ∃ m p, (x.runtime.pipes g).recv = some (m, p) ∧ y.ops c = some ⟨k, .returned m⟩ := by
  simp only [step, recv, h, ho, Bool.not_true, Bool.false_eq_true, if_false] at hy
  split at hy
  · cases hy
  · next m p hm =>
    cases hy
    have hl := leave_ops (s := x.withRuntime (x.runtime.setPipe g p)) (q := .returned m) h
    exact ⟨m, p, hm, by rw [hl, Function.update_self]⟩

theorem repliesBelong_step (hr : x.runtime.InOrder) (hx : x.RepliesBelong)
    (hy : x.step I a = some y) : y.RepliesBelong ↔ ∀ c, a = .recv c → x.inTurn c = true := by
  constructor
  · rintro h c rfl
    rw [inTurn]
    split
    · next k g hc =>
      cases ho : (x.runtime.pipes g).opened with
      | false => rfl
      | true =>
        obtain ⟨m, p, hm, hyc⟩ := recv_returns hc ho hy
        have hid := ((hr.ordered g).recv hm).2
        rw [h c k m hyc] at hid
        simp [hid]
    · rfl
  · intro h c k m hc
    rcases returned_step hy hc with hx' | ⟨rfl, g, p, hg, ho, hm⟩
    · exact hx c k m hx'
    · have ht := h c rfl
      have hid := ((hr.ordered g).recv hm).2
      simp only [inTurn, hg, ho, Bool.not_true, Bool.false_or, decide_eq_true_eq, hid,
        Option.some.injEq] at ht
      exact ht

def NoNewReplies (x y : ExecutionSession ν) : Prop :=
  ∀ c k m, y.ops c = some ⟨k, .returned m⟩ → x.ops c = some ⟨k, .returned m⟩

lemma noNewReplies_schedule : NoNewReplies x (x.schedule c k) := by
  intro d j m hd
  by_cases hdc : d = c
  · subst hdc
    rw [schedule_self] at hd
    cases hd
  · rwa [schedule_other hdc] at hd

lemma noNewReplies_cancel : NoNewReplies x (x.cancel c) := by
  intro d j m hd
  rcases cancel_cases c x with h | ⟨k, p, hc, hp, h⟩
  · rwa [h] at hd
  · rw [h, leave_ops hc] at hd
    by_cases hdc : d = c
    · subst hdc
      rw [Function.update_self] at hd
      cases p <;> cases hd
    · rwa [Function.update_of_ne hdc] at hd

lemma noNewReplies_reset {e : ExecutionId} {r : OpId} {spawn : Spawn} :
    NoNewReplies x (ExecutionManager.reset I e spawn x r) := by
  intro d j m hd
  rcases returned_step (reset_step e x r) hd with h | ⟨h, -⟩
  · exact noNewReplies_schedule d j m h
  · cases h

lemma NoNewReplies.belong (h : NoNewReplies x y) (hx : x.RepliesBelong) : y.RepliesBelong :=
  fun c k m hc => hx c k m (h c k m hc)

end ExecutionSession

namespace ExecutionTask

def Silent (u : ExecutionTask) : Prop :=
  u.status ≠ .succeeded ∧ u.stdout = "" ∧ u.stderr = "" ∧ u.traceback = none

def Shows (u : ExecutionTask) (m : Message) : Prop :=
  u.stdout = m.stdout.getD "" ∧ u.stderr = m.stderr.getD "" ∧
    (u.traceback = none ∨ u.traceback = m.traceback)

lemma receive_shows {u : ExecutionTask} (h : u.Silent) (m : Message) : (u.receive m).Shows m := by
  rw [receive]
  split
  · exact ⟨rfl, rfl, Or.inl h.2.2.2⟩
  · exact ⟨rfl, rfl, Or.inr rfl⟩

end ExecutionTask

namespace ExecutionManager

variable {s t : ExecutionManager ν} {a : Action} {e : ExecutionId} {u v : ExecutionTask}
  {x y : ExecutionSession ν} {m : Message}

structure Shown (s : ExecutionManager ν) (e : ExecutionId) (u : ExecutionTask)
    (x : ExecutionSession ν) (m : Message) : Prop where
  cell : CellOf s e u x (.returned m)
  shows : u.Shows m
  done : ∀ limit, s.submissions e ≠ some (.awaiting limit)

def Accounted (s : ExecutionManager ν) : Prop :=
  ∀ e u, s.tasks e = some u → u.Silent ∨ ∃ x m, Shown s e u x m

lemma accounted_awaiting {limit : Limit} (h : Accounted s) (hu : s.tasks e = some u)
    (hs : s.submissions e = some (.awaiting limit)) : u.Silent := by
  rcases h e u hu with hq | ⟨x, m, hm⟩
  · exact hq
  · exact absurd hs (hm.done limit)

lemma accounted_carry (h : Accounted s) (hf : Fresh s) (ht : Stride I s a t)
    (hu : s.tasks e = some u) (hv : t.tasks e = some v) (hq : u.Silent → v.Silent)
    (hs : ∀ m, u.Shows m → v.Shows m) : v.Silent ∨ ∃ x m, Shown t e v x m := by
  rcases h e u hu with hu' | ⟨x, m, hm⟩
  · exact Or.inl (hq hu')
  · obtain ⟨w, y, q, hw, hend⟩ := hm.cell.keep (sessionsKeep hf ht) (tasksKeep hf ht)
    obtain rfl : w = v := Option.some_inj.mp (hw.task.symm.trans hv)
    rcases hend rfl with rfl | ⟨hst, -⟩
    · refine Or.inr ⟨y, m, hw, hs m hm.shows, fun limit hl => ?_⟩
      obtain ⟨limit', hl'⟩ := awaiting_old hf ht hu hl
      exact hm.done limit' hl'
    · cases hst

lemma accounted_update {n : ExecutionId} (h : Accounted s) (hf : Fresh s) (ht : Stride I s a t)
    (htasks : t.tasks = Function.update s.tasks n (some u))
    (hn : t.tasks n = some u → u.Silent ∨ ∃ x m, Shown t n u x m) : Accounted t := by
  intro e v hv
  rw [htasks] at hv
  rcases update_eq_some hv with ⟨rfl, rfl⟩ | ⟨hne, hs⟩
  · exact hn (by rw [htasks, Function.update_self])
  · refine accounted_carry h hf ht hs ?_ id fun m => id
    rw [htasks, Function.update_of_ne hne, hs]

theorem accounted_step (h : Accounted s) (hf : Fresh s) (hl : Linked s) (ht : Stride I s a t) :
    Accounted t := by
  have ht' := ht
  cases ht with
  | refused req err =>
    exact accounted_update h hf ht' rfl fun _ => Or.inl ⟨by simp [ExecutionTask.refuse], rfl, rfl, rfl⟩
  | accepted hx ha =>
    exact accounted_update h hf ht' rfl fun _ => Or.inl ⟨by simp [ExecutionTask.begin], rfl, rfl, rfl⟩
  | timedOut hu hx hs ho hp hl =>
    obtain ⟨w, hw, hv⟩ := handleReset_tasks _ _ _ _ _ s
    refine accounted_update h hf ht' hw fun _ => Or.inl ?_
    obtain ⟨-, h1, h2, h3⟩ := accounted_awaiting h hu hs
    rcases hv with rfl | rfl
    · exact ⟨by simp [ExecutionTask.timeOut], h1, h2, h3⟩
    · exact ⟨by simp [ExecutionTask.timeOut, ExecutionTask.complete], h1, h2, h3⟩
  | @received i w x k m late spawn limit hu hx hs ho =>
    refine accounted_update h hf ht' rfl fun hi => Or.inr ⟨x, m, ?_, ?_, ?_⟩
    · obtain ⟨u', x', p', hc⟩ := hl i limit hs
      obtain rfl : w = u' := Option.some_inj.mp (hu.symm.trans hc.task)
      obtain rfl : x = x' := Option.some_inj.mp (hx.symm.trans hc.session)
      obtain ⟨rfl, rfl⟩ : k = .executeCell w.code w.timeoutSeconds ∧ .returned m = p' := by
        simpa [ho] using hc.op
      obtain ⟨h1, h2, h3⟩ := sameRequest_receive m w
      refine ⟨hi, ?_, ?_⟩
      · change s.sessions (w.receive m).sessionId = some x
        rw [h1]
        exact hx
      · change x.ops i = some ⟨.executeCell (w.receive m).code (w.receive m).timeoutSeconds, _⟩
        rw [h2, h3]
        exact ho
    · exact ExecutionTask.receive_shows (accounted_awaiting h hu hs) m
    · intro limit'
      simp [finalize, setSubmission]
  | failed hu hx hs ho =>
    obtain ⟨-, h1, h2, h3⟩ := accounted_awaiting h hu hs
    exact accounted_update h hf ht' rfl fun _ =>
      Or.inl ⟨by simp [ExecutionTask.fail, ExecutionTask.complete], h1, h2, h3⟩
  | aborted hu hx hs ho hp =>
    obtain ⟨w, hw, hv⟩ := handleReset_tasks _ _ _ _ _ s
    refine accounted_update h hf ht' hw fun _ => Or.inl ?_
    obtain ⟨-, h1, h2, h3⟩ := accounted_awaiting h hu hs
    rcases hv with rfl | rfl
    · exact ⟨by simp [ExecutionTask.cancelByError], h1, h2, h3⟩
    · exact ⟨by simp [ExecutionTask.cancelByError, ExecutionTask.complete], h1, h2, h3⟩
  | finished hu hx hs hr =>
    exact accounted_update h hf ht' rfl fun hv => accounted_carry h hf ht' hu hv id fun m => id
  | cancelledAlone hu hc hx =>
    refine accounted_update h hf ht' (Function.update_idem ..) fun hv =>
      accounted_carry h hf ht' hu hv (fun hq => ⟨?_, hq.2⟩) fun m => id
    simp [ExecutionTask.cancelled]
  | cancelledAtOnce hu hc hx hr =>
    refine accounted_update h hf ht' (Function.update_idem ..) fun hv =>
      accounted_carry h hf ht' hu hv (fun hq => ⟨?_, hq.2⟩) fun m => id
    simp [ExecutionTask.cancelled]
  | cancelling hu hc hx hr =>
    refine accounted_update h hf ht' rfl fun hv =>
      accounted_carry h hf ht' hu hv (fun hq => ⟨?_, hq.2⟩) fun m => id
    simp [ExecutionTask.cancelling]
  | concluded hu hx hs hr =>
    refine accounted_update h hf ht' rfl fun hv =>
      accounted_carry h hf ht' hu hv (fun hq => ⟨?_, hq.2⟩) fun m => id
    simp [ExecutionTask.cancelled]
  | _ => exact fun e v hv => accounted_carry h hf ht' hv hv id fun m => id

def RepliesBelong (s : ExecutionManager ν) : Prop :=
  ∀ k x, s.sessions k = some x → x.RepliesBelong

structure ResponsesBelong (s : ExecutionManager ν) : Prop where
  replies : s.RepliesBelong
  tasks : ∀ e u, s.tasks e = some u →
    u.Silent ∨ ∃ x m, CellOf s e u x (.returned m) ∧ u.Shows m ∧ m.requestId = e

def InTurn (s : ExecutionManager ν) (a : Action) (_ : ExecutionManager ν) : Prop :=
  match a with
  | .inSession k (.recv c) => (s.sessions k).all (·.inTurn c) = true
  | _ => True

structure Traced (s : ExecutionManager ν) : Prop where
  fresh : Fresh s
  linked : Linked s
  accounted : Accounted s
  inOrder : AllSessions (fun x => x.runtime.InOrder) s

lemma empty_traced (now : Instant) : Traced (empty now : ExecutionManager ν) :=
  ⟨empty_fresh now, fun _ _ h => (by cases h), fun _ _ h => (by cases h), fun _ _ h => (by cases h)⟩

lemma traced_step (h : Traced s) (ht : Stride I s a t) : Traced t :=
  ⟨fresh_step h.fresh ht, linked_step h.fresh h.linked ht,
    accounted_step h.accounted h.fresh h.linked ht,
    allSessions_step inOrder_closed h.fresh h.inOrder ht⟩

lemma Accounted.belong (h : Accounted s) (hr : s.RepliesBelong) : ResponsesBelong s := by
  refine ⟨hr, fun e u hu => ?_⟩
  rcases h e u hu with hq | ⟨x, m, hm⟩
  · exact Or.inl hq
  · exact Or.inr ⟨x, m, hm.cell, hm.shows, hr _ x hm.cell.session e _ m hm.cell.op⟩

lemma cancelCell_noNew : ExecutionSession.NoNewReplies x (s.cancelCell e x) := by
  rw [cancelCell]
  split
  · exact ExecutionSession.noNewReplies_cancel
  · exact fun _ _ _ h => h

lemma repliesBelong_turned {k : SessionId} {b : SessionAction} (hio : x.runtime.InOrder)
    (h : s.RepliesBelong) (hx : s.sessions k = some x) (hy : x.step I b = some y) :
    (s.setSession k y).RepliesBelong ↔ InTurn s (.inSession k b) t := by
  have hstep := ExecutionSession.repliesBelong_step hio (h k x hx) hy
  have hturn : InTurn s (.inSession k b) t ↔ ∀ c, b = .recv c → x.inTurn c = true := by
    cases b with
    | recv c => simp [InTurn, hx]
    | _ => simp [InTurn]
  rw [hturn, ← hstep]
  constructor
  · intro hr
    exact hr k y (Function.update_self ..)
  · intro hr
    exact setSession_all h hr

theorem repliesBelong_step (h : Traced s) (hr : s.RepliesBelong) (ht : Stride I s a t) :
    t.RepliesBelong ↔ InTurn s a t := by
  cases ht with
  | turned hx hy => exact repliesBelong_turned (h.inOrder _ _ hx) hr hx hy
  | created hk => exact iff_of_true (setSession_all hr fun c k m hc => by cases hc) trivial
  | accepted hx ha =>
    exact iff_of_true
      (setSession_all hr (ExecutionSession.noNewReplies_schedule.belong (hr _ _ hx))) trivial
  | timedOut hu hx hs ho hp hl =>
    refine iff_of_true ?_ trivial
    rw [RepliesBelong]
    rw [handleReset_sessions]
    exact setSession_all hr (ExecutionSession.noNewReplies_reset.belong (hr _ _ hx))
  | aborted hu hx hs ho hp =>
    refine iff_of_true ?_ trivial
    rw [RepliesBelong]
    rw [handleReset_sessions]
    exact setSession_all hr (ExecutionSession.noNewReplies_reset.belong (hr _ _ hx))
  | fired hu hx hs he =>
    exact iff_of_true
      (setSession_all hr (ExecutionSession.noNewReplies_cancel.belong (hr _ _ hx))) trivial
  | cancelledAtOnce hu hc hx hre =>
    exact iff_of_true (setSession_all hr
      (ExecutionSession.noNewReplies_reset.belong (cancelCell_noNew.belong (hr _ _ hx)))) trivial
  | cancelling hu hc hx hre =>
    exact iff_of_true (setSession_all hr
      (ExecutionSession.noNewReplies_reset.belong (cancelCell_noNew.belong (hr _ _ hx)))) trivial
  | entered hx hk =>
    exact iff_of_true
      (setSession_all hr (ExecutionSession.noNewReplies_schedule.belong (hr _ _ hx))) trivial
  | _ => exact iff_of_true hr trivial

/-- The second task waits for the lock while the first is cancelled with its code on the worker;
it then takes the reply to that code. -/
def overtaken : List Action :=
  [.createSession "s" "r", .submit ⟨"s", "a", none, none, none⟩, .submit ⟨"s", "b", none, none, none⟩,
    .inSession "s" (.begin 0 .up), .inSession "s" (.begin 1 .up), .inSession "s" (.send 0),
    .cancel 0 .up, .inSession "s" (.grant 1 .up), .inSession "s" (.work quietMachine),
    .inSession "s" (.send 1), .inSession "s" (.check 1), .inSession "s" (.probe 1),
    .inSession "s" (.fetch 1), .inSession "s" (.recv 1), .resume 1 false .up]

end ExecutionManager

end NotebookExecution.Execution
