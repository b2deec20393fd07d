import NotebookExecution.Execution.Lifetime
import NotebookExecution.Execution.Strides

/-! Whose work a reset discards. A task that is cancelled or runs out of time owes its session a
reset, whether or not its code has ever been on the worker; the namespace outlives the code that is
sent while no reset is owed and as long as only tasks on the worker are withdrawn. -/

namespace NotebookExecution.Execution

open Library.Runs

variable {ν : Type} {I : Interpreter ν}

def Action.withdraws : Action → Option ExecutionId
  | .cancel e _ | .timer e => some e
  | _ => none

namespace ExecutionSession

def resets (r : OpId) (x : ExecutionSession ν) : Bool :=
  match x.ops r with
  | some ⟨.reset (some _), p⟩ => !p.ended
  | _ => false

def onWorker (c : OpId) (x : ExecutionSession ν) : Bool := (x.phaseOf c).any Phase.onWorker

def sendsCode (c : OpId) (x : ExecutionSession ν) : Bool :=
  match x.ops c with
  | some ⟨.executeCell _ _, .sending g⟩ => (x.runtime.pipes g).opened
  | _ => false

def disturbs (x : ExecutionSession ν) : SessionAction → Bool
  | .expire _ => true
  | .work _ => x.runtime.pipe.requests.head? = some .stop
  | a => a.ender.any fun c => (x.ops c).any fun o => o.kind.explicit

end ExecutionSession

namespace ExecutionManager

variable {s t w : ExecutionManager ν} {a : Action} {k : SessionId} {e : ExecutionId}
  {x y : ExecutionSession ν} {P : Phase → Prop} {spawn : Spawn}

def comes (k : SessionId) (e : ExecutionId) (s : ExecutionManager ν) : Bool :=
  match s.submissions e with
  | some (.awaiting limit) =>
    s.belongs k e && (decide (limit ≠ .pending) ||
      (s.sessions k).any fun x => (x.phaseOf e).any Phase.aborted)
  | _ => false

def due (k : SessionId) (s : ExecutionManager ν) : Bool :=
  (List.range s.next).any fun i => (s.sessions k).any (·.resets i) || s.comes k i

def spent (k : SessionId) (e : ExecutionId) (s : ExecutionManager ν) : Bool :=
  (s.sessions k).any fun x => x.onWorker e || (x.runtime.sentTo e && !x.runtime.up)

/-- Tasks are only withdrawn when their code is spent, code is only sent while no reset is due,
and no code leaves the worker. -/
def guarded (I : Interpreter ν) (k : SessionId) (s : ExecutionManager ν) : Action → Bool
  | .cancel e _ | .timer e => !s.belongs k e || s.spent k e
  | .inSession j (.send c) => decide (j ≠ k) || !(s.sessions k).any (·.sendsCode c) || !s.due k
  | .inSession j (.work machine) =>
    decide (j ≠ k) || (s.sessions k).all fun x => x.runtime.serves I machine
  | _ => true

/-- No task on the worker is withdrawn, and nothing else disturbs the worker. -/
def undisturbed (k : SessionId) (s : ExecutionManager ν) : Action → Bool
  | .cancel e _ | .timer e => !s.belongs k e || !(s.sessions k).any (·.onWorker e)
  | .inSession j b => decide (j ≠ k) || (s.sessions k).all fun x => !x.disturbs b
  | _ => true

def OnlySent (k : SessionId) (s : ExecutionManager ν) : Prop :=
  ∀ x r e p, s.sessions k = some x → x.ops r = some ⟨.reset (some e), p⟩ → x.runtime.sentTo e = true

/-! ## Resets that tasks owe -/

inductive Owes (P : Phase → Prop) (k : SessionId) (s : ExecutionManager ν) (e : ExecutionId) : Prop
  | called {x r p} (hx : s.sessions k = some x) (ho : x.ops r = some ⟨.reset (some e), p⟩) (hp : P p)
  | coming {x limit m p} (hx : s.sessions k = some x) (hb : s.belongs k e = true)
      (hs : s.submissions e = some (.awaiting limit)) (ho : x.ops e = some ⟨m, p⟩)
      (hp : p.aborted = true ∨ limit ≠ .pending)

lemma owes_due (hf : Fresh s) (h : Owes (fun p => p.ended = false) k s e) : s.due k = true := by
  rw [due, List.any_eq_true]
  cases h with
  | @called x r p hx ho hp =>
    refine ⟨r, List.mem_range.mpr (lt_of_some (hf.ops k x hx) ho), ?_⟩
    simp [hx, ExecutionSession.resets, ho, hp]
  | @coming x limit m p hx hb hs ho hp =>
    refine ⟨e, List.mem_range.mpr (lt_of_some hf.submissions hs), ?_⟩
    have hc : s.comes k e = true := by
      rcases hp with hp | hp
      · simp [comes, hs, hb, hx, ExecutionSession.phaseOf, ho, hp]
      · simp [comes, hs, hb, hp]
    rw [hc, Bool.or_true]

lemma reset_ops (I : Interpreter ν) (spawn : Spawn) (e : ExecutionId) (x : ExecutionSession ν) (r : OpId) :
    ∃ q, (reset I e spawn x r).ops = Function.update x.ops r (some ⟨.reset (some e), q⟩) := by
  obtain ⟨q, hq⟩ : ∃ q, ExecutionSession.Advances I (x.schedule r (.reset (some e))) r (.begin r spawn)
      (.reset (some e)) .scheduled q (reset I e spawn x r) :=
    ExecutionSession.run_advances ExecutionSession.schedule_self
  refine ⟨q, hq.ops.trans ?_⟩
  exact Function.update_idem ..

lemma reset_other {r c : OpId} (hc : c ≠ r) : (reset I e spawn x r).ops c = x.ops c := by
  obtain ⟨q, hq⟩ := reset_ops I spawn e x r
  rw [hq, Function.update_of_ne hc]

lemma turn_aborted {r r' : PythonRuntime ν} {c : OpId} {b : SessionAction} {m : Kind} {p q : Phase}
    (h : Turn I r c b m p q r') (hq : q.aborted = true) : p.aborted = true := by
  cases h with
  | straySent | strayUnsent | strayTook | strayClosed => rfl
  | respawn spawn hk hs hb hsp => cases hsp <;> cases hq
  | _ => cases hq

structure Inherited (I : Interpreter ν) (P : Phase → Prop) : Prop where
  turn : ∀ {r r' : PythonRuntime ν} {c : OpId} {b : SessionAction} {m : Kind} {p q : Phase},
    Turn I r c b m p q r' → P q → P p
  cancel : ∀ {p : Phase}, P (ExecutionSession.cancelled p) → P p

lemma inherited_any : Inherited I fun _ => True := ⟨fun _ _ => trivial, fun _ => trivial⟩

lemma inherited_live : Inherited I fun p => p.ended = false := by
  constructor
  · intro r r' c b m p q h hq
    cases hp : p.ended with
    | false => rfl
    | true =>
      obtain ⟨-, rfl⟩ := ExecutionSession.turn_ended h hp
      cases hq
  · intro p hp
    cases p <;> first | rfl | cases hp

lemma step_inherits {b : SessionAction} {c : OpId} {m : Kind} {q : Phase}
    (hP : ∀ {r r' : PythonRuntime ν} {c : OpId} {b : SessionAction} {m : Kind} {p q : Phase},
      Turn I r c b m p q r' → P q → P p)
    (hy : x.step I b = some y) (ho : y.ops c = some ⟨m, q⟩) (hq : P q) :
    ∃ p, x.ops c = some ⟨m, p⟩ ∧ P p := by
  rcases ExecutionSession.step_cases hy with ⟨r, -, rfl⟩ | ⟨d, j, p, q', hd, hm⟩
  · exact ⟨q, ho, hq⟩
  · by_cases hc : c = d
    · subst hc
      cases hm.self.symm.trans ho
      exact ⟨p, hd, hP hm.turn hq⟩
    · exact ⟨q, (hm.other hc).symm.trans ho, hq⟩

lemma schedule_inherits {c d : OpId} {j m : Kind} {q : Phase} (hj : j ≠ m)
    (ho : (x.schedule d j).ops c = some ⟨m, q⟩) : x.ops c = some ⟨m, q⟩ := by
  by_cases hc : c = d
  · subst hc
    rw [ExecutionSession.schedule_self] at ho
    cases ho
    exact absurd rfl hj
  · rwa [ExecutionSession.schedule_other hc] at ho

lemma cancel_inherits {c d : OpId} {m : Kind} {q : Phase}
    (hP : ∀ {p : Phase}, P (ExecutionSession.cancelled p) → P p)
    (ho : (x.cancel d).ops c = some ⟨m, q⟩) (hq : P q) : ∃ p, x.ops c = some ⟨m, p⟩ ∧ P p := by
  rcases ExecutionSession.cancel_cases d x with hx | ⟨j, p, hd, hp, hx⟩
  · rw [hx] at ho
    exact ⟨q, ho, hq⟩
  · rw [hx, ExecutionSession.leave_ops hd] at ho
    by_cases hc : c = d
    · subst hc
      rw [Function.update_self] at ho
      cases ho
      exact ⟨p, hd, hP hq⟩
    · rw [Function.update_of_ne hc] at ho
      exact ⟨q, ho, hq⟩

lemma cancelCell_inherits {c : OpId} {m : Kind} {q : Phase}
    (hP : ∀ {p : Phase}, P (ExecutionSession.cancelled p) → P p)
    (ho : (s.cancelCell e x).ops c = some ⟨m, q⟩) (hq : P q) : ∃ p, x.ops c = some ⟨m, p⟩ ∧ P p := by
  rw [cancelCell] at ho
  split at ho
  · exact cancel_inherits hP ho hq
  · exact ⟨q, ho, hq⟩

lemma cancelCell_other {c : OpId} (hc : c ≠ e) : (s.cancelCell e x).ops c = x.ops c := by
  rw [cancelCell]
  split
  · exact ExecutionSession.cancel_other hc
  · rfl

lemma comes_of_settled {m : Kind} {p : Phase} {limit : Limit} (ho : AllSessions (·.Orderly) s)
    (hl : Linked s) (hx : s.sessions k = some x) (hb : s.belongs k e = true)
    (hs : s.submissions e = some (.awaiting limit)) (hc : x.ops e = some ⟨m, p⟩)
    (hp : p.aborted = true ∨ p = .finished ∨ limit ≠ .pending) : Owes P k s e := by
  -- A cell call does not finish, so its submitter makes a reset only when it was aborted or timed.
  refine .coming hx hb hs hc ?_
  rcases hp with hp | rfl | hp
  · exact Or.inl hp
  · obtain ⟨u, x', p', hcell⟩ := hl e limit hs
    have hk : u.sessionId = k := by simpa [belongs, hcell.task] using hb
    subst hk
    cases hx.symm.trans hcell.session
    cases hc.symm.trans hcell.op
    have hcalls := (ho _ _ hx).finished _ _ hc
    cases hcalls
  · exact Or.inr hp

lemma called_change (hP : Inherited I P) (ho : AllSessions (·.Orderly) s) (hl : Linked s)
    (h : Change I s a k y) {r : OpId} {p : Phase} (hr : y.ops r = some ⟨.reset (some e), p⟩) (hp : P p) :
    Owes P k s e ∨ a.withdraws = some e ∧ s.belongs k e = true := by
  -- A reset on behalf of a task was there before the step, is made by the task's submitter, or is made
  -- because the step withdraws the task.
  cases h with
  | same hx => exact Or.inl (.called hx hr hp)
  | created id hk => cases hr
  | scheduled hx hm => exact Or.inl (.called hx (schedule_inherits (hm e) hr) hp)
  | stepped hx ha hy =>
    obtain ⟨q, hq, hpq⟩ := step_inherits hP.turn hy hr hp
    exact Or.inl (.called hx hq hpq)
  | @settled x i spawn m q limit hx hb hs hc hq =>
    by_cases hrn : r = s.next
    · obtain ⟨q', hq'⟩ := reset_ops I spawn i x s.next
      rw [hq', hrn, Function.update_self] at hr
      cases hr
      exact Or.inl (comes_of_settled ho hl hx hb hs hc hq)
    · rw [reset_other hrn] at hr
      exact Or.inl (.called hx hr hp)
  | stopped hx ha hb =>
    obtain ⟨q, hq, hpq⟩ := cancel_inherits hP.cancel hr hp
    exact Or.inl (.called hx hq hpq)
  | @cancelled x i spawn hx ha hb =>
    by_cases hrn : r = s.next
    · obtain ⟨q', hq'⟩ := reset_ops I spawn i (s.cancelCell i x) s.next
      rw [hq', hrn, Function.update_self] at hr
      cases hr
      exact Or.inr ⟨by rw [ha]; rfl, hb⟩
    · rw [reset_other hrn] at hr
      obtain ⟨q, hq, hpq⟩ := cancelCell_inherits hP.cancel hr hp
      exact Or.inl (.called hx hq hpq)

lemma aborted_change (h : Change I s a k y) {m : Kind} {p : Phase}
    (he : e < s.next) (hr : y.ops e = some ⟨m, p⟩) (hp : p.aborted = true) :
    (∃ x q, s.sessions k = some x ∧ x.ops e = some ⟨m, q⟩ ∧ q.aborted = true) ∨
      a.withdraws = some e := by
  have hne : e ≠ s.next := he.ne
  cases h with
  | same hx => exact Or.inl ⟨_, p, hx, hr, hp⟩
  | created id hk => cases hr
  | scheduled hx hm =>
    rw [ExecutionSession.schedule_other hne] at hr
    exact Or.inl ⟨_, p, hx, hr, hp⟩
  | stepped hx ha hy =>
    obtain ⟨q, hq, hpq⟩ := step_inherits turn_aborted hy hr hp
    exact Or.inl ⟨_, q, hx, hq, hpq⟩
  | settled hx hb hs hc hq =>
    rw [reset_other hne] at hr
    exact Or.inl ⟨_, p, hx, hr, hp⟩
  | @stopped x i hx ha hb =>
    by_cases hi : e = i
    · exact Or.inr (by rw [ha, hi]; rfl)
    · rw [ExecutionSession.cancel_other hi] at hr
      exact Or.inl ⟨_, p, hx, hr, hp⟩
  | @cancelled x i spawn hx ha hb =>
    by_cases hi : e = i
    · exact Or.inr (by rw [ha, hi]; rfl)
    · rw [reset_other hne, cancelCell_other hi] at hr
      exact Or.inl ⟨_, p, hx, hr, hp⟩

structure Kept (s : ExecutionManager ν) : Prop where
  fresh : Fresh s
  linked : Linked s
  orderly : AllSessions (·.Orderly) s

lemma empty_kept (now : Instant) : Kept (empty now : ExecutionManager ν) :=
  ⟨empty_fresh now, fun _ _ h => (by cases h), fun _ _ h => (by cases h)⟩

lemma kept_step (h : Kept s) (ht : Stride I s a t) : Kept t :=
  ⟨fresh_step h.fresh ht, linked_step h.fresh h.linked ht,
    allSessions_step ExecutionSession.orderly_closed h.fresh h.orderly ht⟩

lemma belongs_back (hf : Fresh s) (ht : Stride I s a t)
    (hs : ∃ u, s.tasks e = some u) (hb : t.belongs k e = true) : s.belongs k e = true := by
  obtain ⟨u, hu⟩ := hs
  obtain ⟨v, hv, hsid, -, -⟩ := tasksKeep hf ht e u hu
  have hk : v.sessionId = k := by simpa [belongs, hv] using hb
  exact belongs_self hu (hsid.symm.trans hk)

theorem owes_stride (hP : Inherited I P) (hk : Kept s) (ht : Stride I s a t) (h : Owes P k t e) :
    Owes P k s e ∨ a.withdraws = some e ∧ s.belongs k e = true := by
  cases h with
  | called hy hr hp => exact called_change hP hk.orderly hk.linked (stride_change ht _ hy) hr hp
  | @coming y limit m p hy hb hs hr hp =>
    rcases awaiting_stride ht hs with ⟨limit', hs', hl⟩ | ⟨rfl, rfl, u, x, hcell⟩
    · obtain ⟨u, x, q, hcell⟩ := hk.linked e limit' hs'
      have hb' := belongs_back hk.fresh ht ⟨u, hcell.task⟩ hb
      rcases hl with rfl | rfl
      · have hu : u.sessionId = k := by simpa [belongs, hcell.task] using hb'
        subst hu
        rcases hp with hp | hp
        · rcases aborted_change (stride_change ht y hy) (lt_of_some hk.fresh.tasks hcell.task)
            hr hp with ⟨x', q', hx', ho', hq'⟩ | hw
          · exact Or.inl (.coming hx' hb' hs' ho' (Or.inl hq'))
          · exact Or.inr ⟨hw, hb'⟩
        · exact Or.inl (.coming hcell.session hb' hs' hcell.op (Or.inr hp))
      · exact Or.inr ⟨rfl, hb'⟩
    · have hu : u.sessionId = k := by simpa [belongs, hcell.task] using hb
      subst hu
      cases hy.symm.trans hcell.session
      cases hr.symm.trans hcell.op
      rcases hp with hp | hp
      · cases hp
      · exact absurd rfl hp

lemma step_sentTo {b : SessionAction} (hy : x.step I b = some y) (h : x.runtime.sentTo e = true) :
    y.runtime.sentTo e = true := by
  rcases ExecutionSession.step_cases hy with ⟨r, hr, rfl⟩ | ⟨c, j, p, q, -, hm⟩
  · obtain ⟨hg, hs⟩ := PythonRuntime.acts_sent hr
    rw [PythonRuntime.sentTo_iff] at h ⊢
    obtain ⟨g, hle, hmem⟩ := h
    refine ⟨g, hle.trans hg.ge, ?_⟩
    rw [ExecutionSession.withRuntime_runtime, hs]
    exact hmem
  · exact PythonRuntime.turn_sentTo hm.turn h

lemma reset_sentTo {i : ExecutionId} {r : OpId} (h : x.runtime.sentTo e = true) :
    (reset I i spawn x r).runtime.sentTo e = true :=
  step_sentTo (ExecutionSession.reset_step i x r) h

lemma cancelCell_runtime : (s.cancelCell e x).runtime = x.runtime := by
  rw [cancelCell]
  split
  · exact ExecutionSession.cancel_runtime
  · rfl

lemma change_sentTo (hx : s.sessions k = some x) (h : Change I s a k y)
    (he : x.runtime.sentTo e = true) : y.runtime.sentTo e = true := by
  cases h with
  | same hx' =>
    cases hx.symm.trans hx'
    exact he
  | created id hk =>
    rw [hx] at hk
    cases hk
  | scheduled hx' hm =>
    cases hx.symm.trans hx'
    exact he
  | stepped hx' ha hy =>
    cases hx.symm.trans hx'
    exact step_sentTo hy he
  | settled hx' hb hs hc hq =>
    cases hx.symm.trans hx'
    exact reset_sentTo he
  | stopped hx' ha hb =>
    cases hx.symm.trans hx'
    rw [ExecutionSession.cancel_runtime]
    exact he
  | cancelled hx' ha hb =>
    cases hx.symm.trans hx'
    apply reset_sentTo
    rw [cancelCell_runtime]
    exact he

def SentTo (k : SessionId) (s : ExecutionManager ν) (e : ExecutionId) : Prop :=
  ∃ x, s.sessions k = some x ∧ x.runtime.sentTo e = true

def Backed (k : SessionId) (s : ExecutionManager ν) : Prop :=
  ∀ e, Owes (fun _ => True) k s e → SentTo k s e

lemma sentTo_stride (hf : Fresh s) (ht : Stride I s a t) (h : SentTo k s e) : SentTo k t e := by
  obtain ⟨x, hx, he⟩ := h
  obtain ⟨y, hy, -⟩ := sessionsKeep hf ht k x hx
  exact ⟨y, hy, change_sentTo hx (stride_change ht y hy) he⟩

lemma spent_sentTo (ho : AllSessions (·.Orderly) s) (h : s.spent k e = true) : SentTo k s e := by
  obtain ⟨x, hx, he⟩ := (Option.any_eq_true _ _).mp h
  refine ⟨x, hx, ?_⟩
  rcases Bool.or_eq_true_iff.mp he with hw | hs
  · obtain ⟨p, hp, hon⟩ := (Option.any_eq_true _ _).mp hw
    obtain ⟨⟨m, q⟩, hop, rfl⟩ := Option.map_eq_some_iff.mp hp
    exact (ho k x hx).sent e m q hop hon
  · exact (Bool.and_eq_true_iff.mp hs).1

lemma guarded_spent (hg : s.guarded I k a = true) (hw : a.withdraws = some e)
    (hb : s.belongs k e = true) : s.spent k e = true := by
  cases a with
  | cancel i spawn =>
    cases hw
    simpa [guarded, hb] using hg
  | timer i =>
    cases hw
    simpa [guarded, hb] using hg
  | _ => cases hw

lemma backed_step (hk : Kept s) (h : Backed k s) (ht : Stride I s a t)
    (hg : s.guarded I k a = true) : Backed k t := by
  intro e he
  apply sentTo_stride hk.fresh ht
  rcases owes_stride inherited_any hk ht he with ho | ⟨hw, hb⟩
  · exact h e ho
  · exact spent_sentTo hk.orderly (guarded_spent hg hw hb)

lemma Backed.onlySent (h : Backed k s) : OnlySent k s := by
  intro x r e p hx ho
  obtain ⟨x', hx', he⟩ := h e (.called hx ho trivial)
  cases hx.symm.trans hx'
  exact he

/-! ## The worker lasts -/

lemma step_lasts {b : SessionAction} (hy : x.step I b = some y)
    (hu : x.runtime.up = true) (hd : x.disturbs b = false)
    (hw : ∀ machine, b = .work machine → x.runtime.serves I machine = true)
    (hr : ∀ r e p, x.ops r = some ⟨.reset (some e), p⟩ → p.ended = true) :
    x.runtime.Lasts I y.runtime := by
  rcases ExecutionSession.step_cases hy with ⟨r, hr, rfl⟩ | ⟨c, m, p, q, hc, hm⟩
  · cases hr with
    | @work machine _ hwork =>
      exact PythonRuntime.work_lasts hwork hu (hw machine rfl)
        (by simpa [ExecutionSession.disturbs] using hd)
    | exit he =>
      have hup := (PythonRuntime.up_iff.mp hu).1
      have hdown := (PythonRuntime.exit_cases he).2
      rw [PythonRuntime.isAlive, hup] at hdown
      cases hdown
  · rcases PythonRuntime.turn_lasts hm.turn hu with hl | rfl | ⟨⟨ha, hp⟩, hk⟩
    · exact hl
    · cases hd
    · rcases Kind.ends_cases hk with ⟨e, rfl⟩ | he
      · rw [hr c e p hc] at hp
        cases hp
      · have hdist : x.disturbs b = true := by
          cases b <;> simp_all [ExecutionSession.disturbs, SessionAction.ender]
        rw [hdist] at hd
        cases hd

lemma withdrawn_disturbs (hx : s.sessions k = some x) (hu : x.runtime.up = true)
    (hw : a.withdraws = some e) (hb : s.belongs k e = true) (hg : s.guarded I k a = true) :
    s.undisturbed k a = false := by
  have hsp := guarded_spent hg hw hb
  simp only [spent, hx, Option.any_some, hu, Bool.not_true, Bool.and_false, Bool.or_false] at hsp
  cases a with
  | cancel i spawn =>
    cases hw
    simp [undisturbed, hb, hx, hsp]
  | timer i =>
    cases hw
    simp [undisturbed, hb, hx, hsp]
  | _ => cases hw

lemma change_lasts (hx : s.sessions k = some x) (ho : AllSessions (·.Orderly) s) (hl : Linked s)
    (hn : ∀ e, ¬ Owes (fun p => p.ended = false) k s e) (h : Change I s a k y)
    (hg : s.guarded I k a = true) (hd : s.undisturbed k a = true) (hu : x.runtime.up = true) :
    x.runtime.Lasts I y.runtime := by
  cases h with
  | same hx' =>
    cases hx.symm.trans hx'
    exact .refl hu
  | created id hk =>
    rw [hx] at hk
    cases hk
  | scheduled hx' hm =>
    cases hx.symm.trans hx'
    exact .refl hu
  | stepped hx' ha hy =>
    cases hx.symm.trans hx'
    subst ha
    refine step_lasts hy hu ?_ ?_ ?_
    · simpa [undisturbed, hx] using hd
    · rintro machine rfl
      simpa [guarded, hx] using hg
    · intro r e p hr
      by_contra hp
      exact hn e (.called hx hr (by simpa using hp))
  | settled hx' hb hs hc hq => exact absurd (comes_of_settled ho hl hx' hb hs hc hq) (hn _)
  | stopped hx' ha hb =>
    cases hx.symm.trans hx'
    rw [ExecutionSession.cancel_runtime]
    exact .refl hu
  | cancelled hx' ha hb =>
    subst ha
    exact absurd (withdrawn_disturbs hx hu rfl hb hg) (by simp [hd])

structure Lasting (I : Interpreter ν) (k : SessionId) (x : ExecutionSession ν)
    (s : ExecutionManager ν) : Prop where
  kept : Kept s
  clear : ∀ e, ¬ Owes (fun p => p.ended = false) k s e
  lasts : ∃ y, s.sessions k = some y ∧ x.runtime.Lasts I y.runtime

lemma lasting_step (h : Lasting I k x s) (ht : Stride I s a t) (hg : s.guarded I k a = true)
    (hd : s.undisturbed k a = true) : Lasting I k x t := by
  obtain ⟨y, hy, hxy⟩ := h.lasts
  obtain ⟨z, hz, -⟩ := sessionsKeep h.kept.fresh ht k y hy
  have hyz : y.runtime.Lasts I z.runtime :=
    change_lasts hy h.kept.orderly h.kept.linked h.clear (stride_change ht z hz) hg hd hxy.up
  refine ⟨kept_step h.kept ht, fun e he => ?_, z, hz, hxy.trans hyz⟩
  rcases owes_stride inherited_live h.kept ht he with ho | ⟨hw, hb⟩
  · exact h.clear e ho
  · exact absurd (withdrawn_disturbs hy hxy.up hw hb hg) (by simp [hd])

def Persists (I : Interpreter ν) (k : SessionId) (s : ExecutionManager ν) (bs : List Action)
    (t : ExecutionManager ν) : Prop :=
  ∀ c cs x, bs = .inSession k (.send c) :: cs → s.sessions k = some x → x.sendsCode c = true →
    x.runtime.up = true → Along (step I) (fun s a _ => s.undisturbed k a = true) s bs →
    ∃ y, t.sessions k = some y ∧ x.runtime.Lasts I y.runtime

lemma persists_of_guarded {bs : List Action} (hk : Kept s)
    (hg : Along (step I) (fun s a _ => s.guarded I k a = true) s bs) (ht : exec (step I) s bs = some t) :
    Persists I k s bs t := by
  rintro c cs x rfl hx hsend hu hd
  obtain ⟨v, hv⟩ : ∃ v, step I s (.inSession k (.send c)) = some v := by
    cases hv : step I s (.inSession k (.send c)) with
    | none => simp [exec, hv] at ht
    | some v => exact ⟨v, rfl⟩
  have hclear : s.due k = false := by
    have hfirst := (along_cons.mp hg v hv).1
    simpa [guarded, hx, hsend] using hfirst
  have hstart : Lasting I k x s := by
    refine ⟨hk, fun e he => ?_, x, hx, .refl hu⟩
    rw [owes_due hk.fresh he] at hclear
    cases hclear
  have hend : Lasting I k x t :=
    (hg.and hd).invariant (fun _ _ _ h hst hc => lasting_step h (step_stride hst) hc.1 hc.2) hstart ht
  exact hend.lasts

theorem namespace_kept (I : Interpreter ν) (now : Instant) (k : SessionId) (as bs : List Action)
    (hc : Along (step I) (fun s a _ => s.guarded I k a = true) (empty now) (as ++ bs))
    (hs : exec (step I) (empty now) as = some s) (ht : exec (step I) s bs = some t) :
    OnlySent k t ∧ Persists I k s bs t := by
  have hkeep : ∀ s a t, Kept s ∧ Backed k s → step I s a = some t → s.guarded I k a = true →
      Kept t ∧ Backed k t := fun s a t h hst hg =>
    ⟨kept_step h.1 (step_stride hst), backed_step h.1 h.2 (step_stride hst) hg⟩
  have hempty : Kept (empty now : ExecutionManager ν) ∧
      Backed k (empty now : ExecutionManager ν) := by
    refine ⟨empty_kept now, fun e he => ?_⟩
    cases he with
    | called hx => cases hx
    | coming hx => cases hx
  have hmid : Kept s ∧ Backed k s := hc.take.invariant (J := fun s => Kept s ∧ Backed k s) hkeep hempty hs
  have hend : Kept t ∧ Backed k t := (hc.drop hs).invariant (J := fun s => Kept s ∧ Backed k s) hkeep hmid ht
  exact ⟨hend.2.onlySent, persists_of_guarded hmid.1 (hc.drop hs) ht⟩

/-- A task is cancelled on the worker and both resets are made; then two tasks run. -/
def spared : List Action × List Action :=
  ([.createSession "s" "r", .submit ⟨"s", "x", none, none, none⟩, .inSession "s" (.begin 0 .up),
      .inSession "s" (.send 0), .cancel 0 .up, .inSession "s" .exit, .inSession "s" (.joined 1 .up),
      .concluded 0,
      .resume 0 false .up, .inSession "s" .exit, .inSession "s" (.joined 2 .up), .finish 0,
      .submit ⟨"s", "a", none, none, none⟩, .inSession "s" (.begin 3 .up)],
    [.inSession "s" (.send 3), .inSession "s" (.work quietMachine), .inSession "s" (.check 3),
      .inSession "s" (.probe 3), .inSession "s" (.fetch 3), .inSession "s" (.recv 3),
      .resume 3 false .up, .submit ⟨"s", "b", none, none, none⟩, .inSession "s" (.begin 4 .up),
      .inSession "s" (.send 4), .inSession "s" (.work quietMachine)])

theorem spared_keeps_namespace :
    ∃ s t, exec (step echo) (empty 0) spared.1 = some s ∧ exec (step echo) s spared.2 = some t ∧
      (t.sessions "s").map (·.runtime.space) = some ["a", "b"] ∧ OnlySent "s" t ∧
      Persists echo "s" s spared.2 t :=
  ⟨_, _, rfl, rfl, rfl, namespace_kept echo 0 "s" spared.1 spared.2 (by decide) rfl rfl⟩

/-- Two tasks succeed, the second while a third runs out of time in the queue for the lock. -/
def bereft : List Action × List Action :=
  ([.createSession "s" "r", .submit ⟨"s", "a", none, none, none⟩, .inSession "s" (.begin 0 .up)],
    [.inSession "s" (.send 0), .inSession "s" (.work quietMachine), .inSession "s" (.check 0),
      .inSession "s" (.probe 0), .inSession "s" (.fetch 0), .inSession "s" (.recv 0),
      .resume 0 false .up, .submit ⟨"s", "b", none, none, none⟩, .inSession "s" (.begin 1 .up),
      .submit ⟨"s", "c", none, none, none⟩, .inSession "s" (.begin 2 .up), .inSession "s" (.send 1),
      .timer 2, .resume 2 false .up, .inSession "s" (.work quietMachine), .inSession "s" (.check 1),
      .inSession "s" (.probe 1), .inSession "s" (.fetch 1), .inSession "s" (.recv 1),
      .resume 1 false .up, .inSession "s" (.grant 3 .up), .inSession "s" .exit, .inSession "s" (.joined 3 .up),
      .finish 2])

theorem bereft_loses_namespace :
    ∃ s t, exec (step echo) (empty 0) bereft.1 = some s ∧ exec (step echo) s bereft.2 = some t ∧
      [0, 1, 2].map (fun e => (t.tasks e).map (·.status)) =
        [some .succeeded, some .succeeded, some .timedOut] ∧
      (t.sessions "s").map (·.runtime.space) = some [] ∧ ¬ OnlySent "s" t ∧
      ¬ Persists echo "s" s bereft.2 t := by
  refine ⟨_, _, rfl, rfl, rfl, rfl, fun h => ?_, fun h => ?_⟩
  · have hsent := h _ 3 2 .finished rfl rfl
    cases hsent
  · obtain ⟨y, hy, hl⟩ := h 0 _ _ rfl rfl rfl rfl (by decide)
    cases hy
    cases hl.generation

end ExecutionManager

end NotebookExecution.Execution
