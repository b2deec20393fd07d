import NotebookExecution.Execution.Agreement
import NotebookExecution.Execution.Namespace

/-! When a stopped session stays stopped. A cell looks at the status before it queues for the lock
and not again, so a session that is stopped over its head is still the cell's to fail or to use. -/

namespace NotebookExecution.Execution

open Library.Runs

variable {ν : Type} {I : Interpreter ν}

namespace ExecutionSession

variable {s t : ExecutionSession ν} {c : OpId} {a : SessionAction} {k : Kind} {p q : Phase}

def awaitsTurn (c : OpId) (s : ExecutionSession ν) : Bool :=
  (s.phaseOf c).all fun p => p = .scheduled ∨ p = .waiting

def StaysStopped (I : Interpreter ν) (s : ExecutionSession ν) (bs : List CallAction) : Prop :=
  Along (callStep I)
    (fun x a y => y.status = .stopped ∧
      ∀ c, a = .act (.send c) → s.awaitsTurn c = true → x.sendsCode c = false) s bs

def starts (s : ExecutionSession ν) : CallAction → Bool
  | .call _ _ => false
  | .act a => a.ender.any fun c => (s.ops c).any fun o => o.kind = .start

def setsStopped (s : ExecutionSession ν) : SessionAction → Bool
  | .begin c _ =>
    match s.ops c with
    | some ⟨.stop, .scheduled⟩ => s.status ≠ .stopping ∧ s.status ≠ .stopped ∧ s.runtime.stop.2 = false
    | _ => false
  | .joined c _ =>
    match s.ops c with
    | some ⟨.stop, .stopping _⟩ => s.status ≠ .stopped
    | _ => false
  | _ => false

def stopsClear (s : ExecutionSession ν) : CallAction → Bool
  | .call _ _ => true
  | .act a => !s.setsStopped a || s.lock.all fun c => (s.ops c).all fun o => !o.kind.isCell

def Queued (s : ExecutionSession ν) : Prop :=
  ∀ c k p, s.ops c = some ⟨k, p⟩ → k.isCell = true → p = .waiting ∨ p.inside = true → c ∈ s.lock

def Clear (s : ExecutionSession ν) : Prop :=
  ∀ c k p, s.ops c = some ⟨k, p⟩ → k.isCell = true → p = .scheduled ∨ p.ended = true

lemma phase_cases (p : Phase) : (p = .scheduled ∨ p.ended = true) ∨ p = .waiting ∨ p.inside = true := by
  cases p <;> simp [Phase.ended, Phase.inside]

lemma locks_of_cell (hk : k.isCell = true) : k.locks = true := by
  cases k <;> first | rfl | cases hk

lemma queued_step (h : s.Queued) (ht : s.step I a = some t) : t.Queued := by
  rcases step_cases ht with ⟨r, -, rfl⟩ | ⟨c, k, p, q, hc, ha⟩
  · exact h
  have hmove := ha.lock
  intro d j p' hd hj hp'
  generalize t.lock = l at hmove ⊢
  by_cases hdc : d = c
  · subst hdc
    cases ha.self.symm.trans hd
    have hkeep : p = .waiting ∨ p.inside = true → d ∈ s.lock := h d k p hc hj
    cases hmove with
    | leave hq => cases q <;> simp [Phase.ended, Phase.inside] at hq hp'
    | keep hp hq => exact hkeep (Or.inr hp)
    | free hk hq =>
      rw [locks_of_cell hj] at hk
      cases hk
    | grant hq hp hl => exact hkeep (Or.inl hp)
    | join hk hp hq => simp
  · have hmem : d ∈ s.lock := h d j p' ((ha.other hdc).symm.trans hd) hj hp'
    cases hmove with
    | leave hq => exact (List.mem_erase_of_ne hdc).mpr hmem
    | keep hp hq => exact hmem
    | free hk hq => exact hmem
    | grant hq hp hl => exact hmem
    | join hk hp hq => exact List.mem_append_left _ hmem

lemma queued_call (h : s.Queued) (ht : s.callStep I (.call c k) = some t) : t.Queued := by
  obtain ⟨-, -, rfl⟩ := call_scheduled ht
  intro d j p hd hj hp
  by_cases hdc : d = c
  · subst hdc
    rw [schedule_self] at hd
    cases hd
    simp [Phase.inside] at hp
  · exact h d j p ((schedule_other hdc).symm.trans hd) hj hp

lemma Queued.clear (h : s.Queued)
    (hl : (s.lock.all fun c => (s.ops c).all fun o => !o.kind.isCell) = true) : s.Clear := by
  intro c k p hc hk
  rcases phase_cases p with hp | hp
  · exact hp
  · have hmem := List.all_eq_true.mp hl c (h c k p hc hk hp)
    simp [hc, hk] at hmem

lemma clear_update (h : s.Clear) (ht : t.ops = Function.update s.ops c (some ⟨k, q⟩))
    (hq : k.isCell = true → q.ended = true) : t.Clear := by
  intro d j p hd hj
  rw [ht] at hd
  by_cases hdc : d = c
  · subst hdc
    rw [Function.update_self] at hd
    cases hd
    exact Or.inr (hq hj)
  · rw [Function.update_of_ne hdc] at hd
    exact h d j p hd hj

lemma shift_stopped {σ τ : Standing} (h : Shift c a k p q σ τ) (hσ : σ.session = .stopped)
    (hcell : k.isCell = true → p = .scheduled ∨ p.ended = true) :
    (τ.session = .stopped ∨ k = .start ∧ a.ender = some c) ∧
      (k.isCell = true → p = .scheduled → q.ended = true) := by
  cases h with
  | stay hp hq =>
    refine ⟨Or.inl hσ, fun hc hs => (hq hc hs).resolve_right ?_⟩
    rw [hσ]
    simp
  | lost e hc hp he hq hx =>
    rcases hcell hc with rfl | hend
    · rw [hq rfl] at hσ
      cases hσ
    · rw [he] at hend
      cases hend
  | fails e =>
    cases hc : k.isCell with
    | true => rcases hcell hc with hp | hp <;> cases hp
    | false => exact ⟨Or.inl hσ, fun h => by cases h⟩
  | resetStops | resetOpens => cases hσ
  | resetJoined spawn hr hq => exact ⟨Or.inl hσ, fun _ hp => by cases hp⟩
  | resetOutlived spawn e hr => exact ⟨Or.inl hσ, fun _ hp => by cases hp⟩
  | resetEnds hr hq => exact ⟨Or.inl hσ, fun _ hp => by cases hp⟩
  | stops ha hs => exact absurd hσ hs.2
  | stopped ha hs hy => exact absurd hσ hs.2
  | stopJoined spawn => exact ⟨Or.inl rfl, fun _ hp => by cases hp⟩
  | startFinds ha => exact ⟨Or.inr ⟨rfl, ha.ender⟩, fun hc => by cases hc⟩
  | startBounces e ha => exact ⟨Or.inr ⟨rfl, ha.ender⟩, fun hc => by cases hc⟩
  | startOpens spawn ha hq => exact ⟨Or.inr ⟨rfl, ha.ender⟩, fun hc => by cases hc⟩
  | startEnds hq => exact ⟨Or.inr ⟨rfl, rfl⟩, fun hc => by cases hc⟩

theorem stopped_step (hs : s.status = .stopped) (hcl : s.Clear) (ht : s.step I a = some t) :
    (t.status = .stopped ∨ s.starts (.act a) = true) ∧ t.Clear := by
  rcases step_shifts ht with ⟨ho, hs', -, -⟩ | ⟨c, k, p, q, hc, ho, hsh⟩
  · rw [Clear, ho]
    exact ⟨Or.inl (hs'.trans hs), hcl⟩
  obtain ⟨hst, hq⟩ := shift_stopped hsh hs (hcl c k p hc)
  refine ⟨hst.imp_right ?_, clear_update hcl ho fun hcell => ?_⟩
  · rintro ⟨rfl, he⟩
    simp [starts, he, hc]
  · rcases hcl c k p hc hcell with rfl | hp
    · exact hq hcell rfl
    · obtain ⟨q', hq', hend⟩ := keeps_step ht c k p hc
      rw [ho, Function.update_self] at hq'
      cases hq'
      rcases hend hp with rfl | ⟨-, rfl⟩
      · exact hp
      · rfl

lemma stop_unsuspended {r : PythonRuntime ν}
    (h : (r.status = .terminating ∨ r.status = .terminated) ∨ r.alive = false) : r.stop.2 = false := by
  rw [PythonRuntime.stop]
  split
  · rfl
  · next hn => simp [h.resolve_left hn]

theorem stopped_set (hs : s.status ≠ .stopped) (ht : s.step I a = some t) (hst : t.status = .stopped) :
    s.setsStopped a = true ∧ (s.Clear → t.Clear) := by
  rcases step_shifts ht with ⟨-, hs', -, -⟩ | ⟨c, k, p, q, hc, ho, hsh⟩
  · exact absurd (hs'.symm.trans hst) hs
  have hτ' : t.standing.session = .stopped := hst
  have hσ' : s.standing.session ≠ .stopped := hs
  generalize hσ : s.standing = σ at hsh hσ'
  generalize hτ : t.standing = τ at hsh hτ'
  cases hsh with
  | stay hp hq => exact absurd hτ' hσ'
  | fails e =>
    cases hk : k.isCell <;> rw [hk] at hτ'
    · exact absurd hτ' hσ'
    · cases hτ'
  | resetJoined spawn hr hq => exact absurd hτ' hσ'
  | resetOutlived spawn e hr => exact absurd hτ' hσ'
  | resetEnds hr hq => exact absurd hτ' hσ'
  | stopped ha hns hy =>
    refine ⟨?_, fun hcl => clear_update hcl ho fun hk => by cases hk⟩
    obtain ⟨hs', hx, hb⟩ := standing_eq.mp hσ
    cases ha with
    | begin spawn =>
      have hstop : s.runtime.stop.2 = false := by
        apply stop_unsuspended
        rw [hx, hb]
        exact hy.imp (·.2) (·.2)
      simp [setsStopped, hc, hs', hns, hstop]
    | grant spawn => cases grant_locks hc ht
  | stopJoined spawn =>
    refine ⟨?_, fun hcl => clear_update hcl ho fun hk => by cases hk⟩
    simp [setsStopped, hc, hs]
  | startOpens spawn ha hq => cases spawn <;> cases hτ'
  | @startEnds _ _ _ b hq => cases b <;> cases hτ'
  | _ => cases hτ'

structure Withdrawn (s : ExecutionSession ν) : Prop where
  queued : s.Queued
  clear : s.status = .stopped → s.Clear

lemma new_withdrawn (I : Interpreter ν) (sessionId : SessionId) (runtimeId : String) (started : Bool) :
    (new I sessionId runtimeId started).Withdrawn :=
  ⟨fun _ _ _ h => (by cases h), fun h => (by cases h)⟩

lemma withdrawn_step {b : CallAction} (h : s.Withdrawn) (ht : s.callStep I b = some t)
    (hc : s.stopsClear b = true) : t.Withdrawn := by
  cases b with
  | call c k =>
    refine ⟨queued_call h.queued ht, fun hs => ?_⟩
    obtain ⟨-, -, rfl⟩ := call_scheduled ht
    intro d j p hd hj
    by_cases hdc : d = c
    · subst hdc
      rw [schedule_self] at hd
      cases hd
      exact Or.inl rfl
    · exact h.clear hs d j p ((schedule_other hdc).symm.trans hd) hj
  | act a =>
    refine ⟨queued_step h.queued ht, fun hst => ?_⟩
    by_cases hs : s.status = .stopped
    · exact (stopped_step hs (h.clear hs) ht).2
    · obtain ⟨hset, hcl⟩ := stopped_set hs ht hst
      exact hcl (h.queued.clear (by simpa [stopsClear, hset] using hc))

lemma Clear.sends_nothing (h : s.Clear) (c : OpId) : s.sendsCode c = false := by
  rw [sendsCode]
  split
  · next code timeout g hc => rcases h c _ _ hc rfl with hp | hp <;> cases hp
  · rfl

/-- If a session is only set stopped when no cell holds its lock or waits for it, then a stopped
session stays stopped and sends no code, until a call to `start` takes a step. -/
theorem stopped_stays (I : Interpreter ν) (sessionId : SessionId) (runtimeId : String) (started : Bool)
    (as bs : List CallAction)
    (hc : Along (callStep I) (fun s a _ => s.stopsClear a = true) (new I sessionId runtimeId started)
      (as ++ bs))
    (hs : exec (callStep I) (new I sessionId runtimeId started) as = some s) (hst : s.status = .stopped)
    (hn : Along (callStep I) (fun s a _ => s.starts a = false) s bs) : s.StaysStopped I bs := by
  have hw : s.Withdrawn := hc.take.invariant (J := Withdrawn)
    (fun _ _ _ h ht hok => withdrawn_step h ht hok) (new_withdrawn I sessionId runtimeId started) hs
  refine along_of_invariant (I := fun x => x.Withdrawn ∧ x.status = .stopped)
    (fun x a y h hy hok => ?_) ⟨hw, hst⟩ ((hc.drop hs).and hn)
  obtain ⟨hx, hxs⟩ := h
  have hys : y.status = .stopped := by
    cases a with
    | call c k =>
      obtain ⟨-, -, rfl⟩ := call_scheduled hy
      exact hxs
    | act a =>
      apply (stopped_step hxs (hx.clear hxs) hy).1.resolve_right
      simp [hok.2]
  exact ⟨⟨withdrawn_step hx hy hok.1, hys⟩, hys, fun c _ _ => (hx.clear hxs).sends_nothing c⟩

/-- A cell has run when the session is stopped; another cell and a reset come later. -/
def tidy : List CallAction × List CallAction :=
  ([.call 0 .start, .act (.begin 0 .up), .call 1 (.executeCell "a" "30"), .act (.begin 1 .up),
      .act (.send 1), .act (.work quietMachine), .act (.check 1), .act (.probe 1), .act (.fetch 1),
      .act (.recv 1), .call 2 .stop, .act (.begin 2 .up), .act (.send 2), .act (.work quietMachine),
      .act (.joined 2 .up)],
    [.call 3 (.executeCell "b" "30"), .act (.begin 3 .up), .call 4 (.reset none), .act (.begin 4 .up)])

theorem tidy_stays_stopped :
    ∃ s, exec (callStep echo) (new echo "s" "r" true) tidy.1 = some s ∧
      (exec (callStep echo) s tidy.2).isSome = true ∧ s.StaysStopped echo tidy.2 :=
  ⟨_, rfl, rfl, stopped_stays echo "s" "r" true tidy.1 tidy.2 (by decide) rfl rfl (by decide)⟩

/-- The session is stopped while a cell runs, which finds its worker gone. -/
def abandoned : List CallAction × List CallAction :=
  ([.call 0 .start, .act (.begin 0 .up), .call 1 (.executeCell "a" "30"), .act (.begin 1 .up),
      .act (.send 1), .call 2 .stop, .act (.begin 2 .up), .act (.send 2), .act .exit,
      .act (.joined 2 .up)],
    [.act (.check 1)])

/-- A stop overtakes a reset while another cell waits for the lock. -/
def outlived : List CallAction × List CallAction :=
  ([.call 0 .start, .act (.begin 0 .up), .call 1 (.executeCell "a" "30"), .act (.begin 1 .up),
      .call 2 (.reset none), .act (.begin 2 .up), .call 3 (.executeCell "b" "30"), .act (.begin 3 .up),
      .act (.send 1), .act (.work quietMachine), .act (.check 1), .act (.probe 1), .act (.fetch 1),
      .act (.recv 1), .act (.grant 2 .up), .call 4 .stop, .act (.begin 4 .up)],
    [.act (.send 2), .act (.work quietMachine), .act (.joined 2 .up), .act (.grant 3 .up), .act (.send 3)])

theorem abandoned_and_outlived_act :
    (∃ s t, exec (callStep echo) (new echo "s" "r" true) abandoned.1 = some s ∧ s.status = .stopped ∧
      exec (callStep echo) s abandoned.2 = some t ∧ t.status = .failed ∧
      ¬ s.StaysStopped echo abandoned.2) ∧
    ∃ s t, exec (callStep echo) (new echo "s" "r" true) outlived.1 = some s ∧ s.status = .stopped ∧
      exec (callStep echo) s outlived.2 = some t ∧ 3 ∈ t.runtime.pipe.sent ∧
      ¬ s.StaysStopped echo outlived.2 := by
  refine ⟨⟨_, _, rfl, rfl, rfl, rfl, fun h => ?_⟩, ⟨_, _, rfl, rfl, rfl, by decide, fun h => ?_⟩⟩
  · cases h.1.1
  · cases h.2.2.2.2.1.2 3 rfl rfl

end ExecutionSession

end NotebookExecution.Execution
