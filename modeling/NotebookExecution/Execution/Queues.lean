import NotebookExecution.Execution.Ledger
import NotebookExecution.Execution.Strides
import NotebookExecution.Library.Progress

/-! The queue of the lock of a session, and how a reset that has come to its head ends. -/

namespace NotebookExecution.Execution

open Library.Runs Library.Progress

variable {ν : Type} {I : Interpreter ν}

/-! ## The queue of a lock -/

namespace Phase

def placed : Phase → Bool
  | .waiting => true
  | p => p.inside

lemma placed_of_inside {p : Phase} (h : p.inside = true) : p.placed = true := by
  cases p <;> first | rfl | cases h

lemma not_placed_of_ended {p : Phase} (h : p.ended = true) : p.placed = false := by
  cases p <;> first | rfl | cases h

lemma ended_or_placed {p : Phase} (h : p ≠ .scheduled) : p.ended = true ∨ p.placed = true := by
  cases p <;> first | exact Or.inl rfl | exact Or.inr rfl | exact absurd rfl h

lemma placed_without_talk {p : Phase} (h : p.placed = true) (ht : p.talks = false) :
    p = .waiting ∨ (∃ o, p = .stopping o) ∨ p = .starting := by
  cases p <;> simp_all [placed, inside, talks]

lemma ended_cancelled (p : Phase) : (ExecutionSession.cancelled p).ended = true := by
  cases p <;> rfl

end Phase

namespace ExecutionSession

variable {s t : ExecutionSession ν} {c d : OpId} {a : SessionAction} {k : Kind} {p q : Phase}
  {cause : Option ExecutionId} {r r' : PythonRuntime ν}

structure Queue (s : ExecutionSession ν) : Prop where
  nodup : s.lock.Nodup
  mem : ∀ c, c ∈ s.lock ↔ ∃ k p, s.ops c = some ⟨k, p⟩ ∧ k.locks = true ∧ p.placed = true
  silent : ∀ c k p, s.ops c = some ⟨k, p⟩ → k.calls = false → p.talks = false

lemma mem_update (ho : t.ops = Function.update s.ops c (some ⟨k, q⟩)) (hd : d ≠ c) :
    (∃ k p, t.ops d = some ⟨k, p⟩ ∧ k.locks = true ∧ p.placed = true) ↔
      ∃ k p, s.ops d = some ⟨k, p⟩ ∧ k.locks = true ∧ p.placed = true := by
  rw [ho, Function.update_of_ne hd]

lemma mem_self (ho : s.ops c = some ⟨k, p⟩) :
    (∃ k p, s.ops c = some ⟨k, p⟩ ∧ k.locks = true ∧ p.placed = true) ↔ k.locks = true ∧ p.placed = true := by
  constructor
  · rintro ⟨k', p', ho', h⟩
    cases ho.symm.trans ho'
    exact h
  · exact fun h => ⟨k, p, ho, h⟩

lemma silent_update (h : s.Queue) (ho : t.ops = Function.update s.ops c (some ⟨k, q⟩))
    (hq : k.calls = false → q.talks = false) :
    ∀ c k p, t.ops c = some ⟨k, p⟩ → k.calls = false → p.talks = false := by
  intro d k' p' hd
  rw [ho] at hd
  rcases ExecutionManager.update_eq_some hd with ⟨-, heq⟩ | ⟨-, hold⟩
  · cases heq
    exact hq
  · exact h.silent d k' p' hold

lemma Queue.leave (h : s.Queue) (ho : t.ops = Function.update s.ops c (some ⟨k, q⟩))
    (hl : t.lock = s.lock.erase c) (hq : q.ended = true) (ht : k.calls = false → q.talks = false) : t.Queue := by
  refine ⟨hl ▸ h.nodup.erase c, fun d => ?_, silent_update h ho ht⟩
  rw [hl, h.nodup.mem_erase_iff]
  by_cases hd : d = c
  · subst hd
    have hself : t.ops d = some ⟨k, q⟩ := by rw [ho, Function.update_self]
    rw [mem_self hself, Phase.not_placed_of_ended hq]
    simp
  · rw [mem_update ho hd, h.mem d]
    simp [hd]

lemma Queue.stay (h : s.Queue) (hc : s.ops c = some ⟨k, p⟩) (ho : t.ops = Function.update s.ops c (some ⟨k, q⟩))
    (hl : t.lock = s.lock) (hp : k.locks = true → p.placed = q.placed)
    (ht : k.calls = false → q.talks = false) : t.Queue := by
  refine ⟨hl ▸ h.nodup, fun d => ?_, silent_update h ho ht⟩
  rw [hl]
  by_cases hd : d = c
  · subst hd
    have hself : t.ops d = some ⟨k, q⟩ := by rw [ho, Function.update_self]
    rw [h.mem d, mem_self hself, mem_self hc]
    exact and_congr_right fun hk => by rw [hp hk]
  · rw [mem_update ho hd, h.mem d]

lemma Queue.join (h : s.Queue) (hc : s.ops c = some ⟨k, .scheduled⟩)
    (ho : t.ops = Function.update s.ops c (some ⟨k, q⟩)) (hl : t.lock = s.lock ++ [c]) (hk : k.locks = true)
    (hq : q.placed = true) (ht : k.calls = false → q.talks = false) : t.Queue := by
  have hnew : c ∉ s.lock := by
    rw [h.mem c, mem_self hc]
    exact fun hp => by cases hp.2
  refine ⟨?_, fun d => ?_, silent_update h ho ht⟩
  · rw [hl, ← List.concat_eq_append]
    exact h.nodup.concat hnew
  · rw [hl, List.mem_append, List.mem_singleton]
    by_cases hd : d = c
    · subst hd
      have hself : t.ops d = some ⟨k, q⟩ := by rw [ho, Function.update_self]
      rw [mem_self hself]
      exact iff_of_true (Or.inr rfl) ⟨hk, hq⟩
    · rw [mem_update ho hd, h.mem d]
      simp [hd]

lemma turn_silent (h : Turn I r c a k p q r') (hk : k.calls = false) (hp : p.talks = false) : q.talks = false := by
  cases h with
  | call ha hcalls =>
    rw [hk] at hcalls
    cases hcalls
  | respawn spawn hstarts hs hb hq => cases hq <;> rfl
  | sent | nothing | found | fetched | probing => cases hp
  | _ => rfl

lemma lockMove_placed {l l' : List OpId} (h : LockMove l c k p q l') (hk : k.locks = true) :
    q.ended = true ∨ q.placed = true := by
  cases h with
  | leave hq => exact Or.inl hq
  | keep hp hq => exact Or.inr (Phase.placed_of_inside hq)
  | free hfree hq =>
    rw [hk] at hfree
    cases hfree
  | grant hq => exact Or.inr (Phase.placed_of_inside hq)
  | join hlocks hp hq =>
    rcases hq with ⟨rfl, -⟩ | ⟨hq, -⟩
    · exact Or.inr rfl
    · exact Or.inr (Phase.placed_of_inside hq)

lemma queue_step (h : s.Queue) (ht : s.step I a = some t) : t.Queue := by
  rcases step_cases ht with ⟨r, -, rfl⟩ | ⟨c, k, p, q, hc, ha⟩
  · exact ⟨h.nodup, h.mem, h.silent⟩
  · have hsilent (hk : k.calls = false) : q.talks = false := turn_silent ha.turn hk (h.silent c k p hc hk)
    have hlock := ha.lock
    generalize hl : t.lock = l at hlock
    cases hlock with
    | leave hq => exact h.leave ha.ops hl hq hsilent
    | keep hp hq =>
      refine h.stay hc ha.ops hl (fun _ => ?_) hsilent
      rw [Phase.placed_of_inside hp, Phase.placed_of_inside hq]
    | free hk hq =>
      refine h.stay hc ha.ops hl (fun hlocks => ?_) hsilent
      rw [hk] at hlocks
      cases hlocks
    | grant hq hp =>
      subst hp
      exact h.stay hc ha.ops hl (fun _ => (Phase.placed_of_inside hq).symm) hsilent
    | join hk hp hq =>
      subst hp
      have hplaced : q.placed = true := by
        rcases hq with ⟨rfl, -⟩ | ⟨hq, -⟩
        · rfl
        · exact Phase.placed_of_inside hq
      exact h.join hc ha.ops hl hk hplaced hsilent

theorem queue_closed : Closed I (fun s : ExecutionSession ν => s.Queue) where
  created k id := ⟨List.nodup_nil, fun c => iff_of_false List.not_mem_nil (by rintro ⟨k, p, h, -⟩; cases h),
    fun c k p h => by cases h⟩
  schedule x c k hc h := by
    have hnew : c ∉ x.lock := by
      rw [h.mem c, hc]
      rintro ⟨k, p, ho, -⟩
      cases ho
    refine ⟨h.nodup, fun d => ?_, silent_update h rfl fun _ => rfl⟩
    by_cases hd : d = c
    · subst hd
      rw [mem_self (schedule_self (s := x) (k := k))]
      exact iff_of_false hnew fun hp => by cases hp.2
    · rw [mem_update rfl hd]
      exact h.mem d
  step _ _ _ h ht := queue_step h ht
  cancel x c h := by
    rcases cancel_cases c x with hs | ⟨k, p, hc, hp, hs⟩
    · rw [hs]
      exact h
    · rw [hs]
      exact h.leave (leave_ops hc) rfl (Phase.ended_cancelled p) fun _ => by cases p <;> rfl

structure Ends (c : OpId) (s t : ExecutionSession ν) : Prop where
  ended : t.isEnded c = true
  lock : t.lock = s.lock.erase c
  others : ∀ d ≠ c, t.ops d = s.ops d

lemma leave_ends (hc : s.ops c = some ⟨k, p⟩) (ho : t.ops = s.ops) (hl : t.lock = s.lock) (hq : q.ended = true) :
    Ends c s (t.leave c q) := by
  have hself : (t.leave c q).ops = Function.update t.ops c (some ⟨k, q⟩) := leave_ops (by rw [ho, hc])
  refine ⟨?_, congrArg (List.erase · c) hl, fun d hd => ?_⟩
  · rw [isEnded, phaseOf_eq (by rw [hself, Function.update_self])]
    exact hq
  · rw [hself, Function.update_of_ne hd, ho]

lemma restart_ends (hc : s.ops c = some ⟨k, p⟩) (ho : t.ops = s.ops) (hl : t.lock = s.lock) :
    Ends c s (t.restart I c .up) := by
  rw [restart]
  split
  · exact leave_ends hc ho hl rfl
  · exact leave_ends (t := t.withRuntime _) hc ho hl rfl

lemma startEnds_ends (hc : s.ops c = some ⟨.reset cause, .starting⟩) :
    ∃ t, s.step I (.startEnds c) = some t ∧ Ends c s t := by
  simp only [step, startEnds, hc]
  split
  · exact ⟨_, rfl, leave_ends (t := s.withRuntime _) hc rfl rfl rfl⟩
  · exact ⟨_, rfl, leave_ends (t := s.withRuntime _) hc rfl rfl rfl⟩

lemma joined_ends {o : Option ℕ} (hc : s.ops c = some ⟨.reset cause, .stopping o⟩) :
    ∃ t, s.step I (.joined c .up) = some t ∧ Ends c s t := by
  simp only [step, joined, hc]
  exact ⟨_, rfl, restart_ends (t := s.withRuntime _) hc rfl rfl⟩

lemma resetBody_ends (hc : s.ops c = some ⟨.reset cause, p⟩) :
    Ends c s (s.resetBody I c .up) ∨
      ∃ o, (s.resetBody I c .up).ops = Function.update s.ops c (some ⟨.reset cause, .stopping o⟩) ∧
        (s.resetBody I c .up).lock = s.lock := by
  rw [resetBody]
  split
  · exact Or.inl (leave_ends hc rfl rfl rfl)
  · split
    · next r hr => exact Or.inr ⟨_, setPhase_ops (s := s.withRuntime r) hc, rfl⟩
    · next r hr => exact Or.inl (restart_ends (t := s.withRuntime r) hc rfl rfl)


lemma grant_ends (hc : s.ops c = some ⟨.reset cause, .waiting⟩) (hl : s.lock.head? = some c) :
    ∃ t, s.step I (.grant c .up) = some t ∧
      (Ends c s t ∨ ∃ o, t.ops = Function.update s.ops c (some ⟨.reset cause, .stopping o⟩) ∧ t.lock = s.lock) := by
  refine ⟨s.resetBody I c .up, ?_, resetBody_ends hc⟩
  simp only [step, hc, if_pos hl]
  rfl

lemma head_ends {l : List OpId} (h : s.Queue) (hl : s.lock = c :: l) (hc : s.ops c = some ⟨.reset cause, p⟩) :
    ∃ t, Leads (step I) (fun _ => true) s t ∧ Ends c s t := by
  have hp : p.placed = true := ((mem_self hc).mp ((h.mem c).mp (hl ▸ List.mem_cons_self))).2
  rcases Phase.placed_without_talk hp (h.silent c _ p hc rfl) with rfl | ⟨o, rfl⟩ | rfl
  · obtain ⟨t, ht, hends | ⟨o, ho, hlock⟩⟩ := grant_ends (I := I) hc (by rw [hl]; rfl)
    · exact ⟨t, .single ht rfl, hends⟩
    · have hself : t.ops c = some ⟨.reset cause, .stopping o⟩ := by rw [ho, Function.update_self]
      obtain ⟨u, hu, hends⟩ := joined_ends (I := I) hself
      refine ⟨u, (Leads.single ht rfl).trans (.single hu rfl), hends.ended, hends.lock.trans (by rw [hlock]), ?_⟩
      intro d hd
      rw [hends.others d hd, ho, Function.update_of_ne hd]
  · obtain ⟨t, ht, hends⟩ := joined_ends (I := I) hc
    exact ⟨t, .single ht rfl, hends⟩
  · obtain ⟨t, ht, hends⟩ := startEnds_ends (I := I) hc
    exact ⟨t, .single ht rfl, hends⟩

end ExecutionSession

end NotebookExecution.Execution
