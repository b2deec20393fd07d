import NotebookExecution.Execution.Sessions

/-! How long a worker lives. A worker that is up ends in a turn of a reset, stop or start, at the
deadline of a command, or by code that leaves it; everything else leaves its namespace to the code
that runs in it. -/

namespace NotebookExecution.Execution

variable {ν : Type} {I : Interpreter ν}

namespace Interpreter

variable {u v w : ν}

def Leads (I : Interpreter ν) (v w : ν) : Prop :=
  ∃ code, (∃ out err, I.exec code v = .ok w out err) ∨
    ∃ out err tb, I.exec code v = .raised w out err tb

def Grown (I : Interpreter ν) : ν → ν → Prop := Relation.ReflTransGen I.Leads

lemma grown_serveCommand {machine : Machine} {c : Command} {m : Message}
    (h : serveCommand I machine v c = some (w, m)) : I.Grown v w := by
  cases c with
  | execute k code =>
    simp only [serveCommand] at h
    cases he : I.exec code v with
    | ok sp out err =>
      rw [he] at h
      cases h
      exact .single ⟨code, Or.inl ⟨out, err, he⟩⟩
    | raised sp out err tb =>
      rw [he] at h
      cases h
      exact .single ⟨code, Or.inr ⟨out, err, tb, he⟩⟩
    | escaped =>
      rw [he] at h
      cases h
  | installPackages k reqs t =>
    cases h
    exact .refl
  | verifyPackages k pkgs =>
    cases h
    exact .refl
  | stop => cases h

end Interpreter

namespace Kind

def explicit : Kind → Bool
  | .reset none | .stop | .start => true
  | _ => false

lemma ends_cases {k : Kind} (h : k.stops = true ∨ k.starts = true) :
    (∃ e, k = .reset (some e)) ∨ k.explicit = true := by
  cases k with
  | reset cause =>
    cases cause with
    | none => exact Or.inr rfl
    | some e => exact Or.inl ⟨e, rfl⟩
  | stop => exact Or.inr rfl
  | start => exact Or.inr rfl
  | _ => rcases h with h | h <;> cases h

lemma not_calls {k : Kind} (h : k.stops = true ∨ k.starts = true) : k.calls = false := by
  cases k <;> first | rfl | (rcases h with h | h <;> cases h)

end Kind

def SessionAction.ender : SessionAction → Option OpId
  | .begin c _ | .grant c _ | .joined c _ | .startEnds c => some c
  | _ => none

lemma Opens.ender {c : OpId} {a : SessionAction} {p : Phase} (h : Opens c a p) : a.ender = some c := by
  cases h <;> rfl

def Phase.sends : Phase → Option ℕ
  | .sending g | .straySend g => some g
  | _ => none

namespace PythonRuntime

variable {r r' r'' b : PythonRuntime ν} {c : OpId} {a : SessionAction} {k : Kind} {p q : Phase} {g i : ℕ}
  {e : ExecutionId}

structure Lasts (I : Interpreter ν) (r r' : PythonRuntime ν) : Prop where
  up : r'.up = true
  generation : r'.generation = r.generation
  space : I.Grown r.space r'.space

lemma Lasts.refl (h : r.up = true) : r.Lasts I r := ⟨h, rfl, .refl⟩

lemma Lasts.trans (h : r.Lasts I r') (h' : r'.Lasts I r'') : r.Lasts I r'' :=
  ⟨h'.up, h'.generation.trans h.generation, h.space.trans h'.space⟩

lemma Lasts.setPipe {pipe : Pipe} (h : r.up = true) : r.Lasts I (r.setPipe g pipe) := ⟨h, rfl, .refl⟩

lemma stop_generation : r.stop.1.generation = r.generation := by
  rw [stop]
  split
  · rfl
  · split <;> rfl

lemma stop_up (h : r.up = true) : r.stop.2 = true := by
  obtain ⟨hs, ha⟩ := up_iff.mp h
  simp [stop, hs, ha]

lemma shut_generation (h : Shut r c a p b) : b.generation = r.generation := by
  cases h with
  | idle ha hs =>
    have hg := stop_generation (r := r)
    rw [hs] at hg
    exact hg
  | direct ha => rfl
  | joined spawn o => rfl

lemma shut_up_cases (h : Shut r c a p b) (hr : r.up = true) :
    b = r ∨ a.ender = some c ∧ p.ended = false := by
  cases h with
  | idle ha hs =>
    have hu := stop_up hr
    rw [hs] at hu
    cases hu
  | direct ha => exact Or.inl rfl
  | joined spawn o => exact Or.inr ⟨rfl, rfl⟩

theorem turn_lasts (h : Turn I r c a k p q r') (hr : r.up = true) :
    r.Lasts I r' ∨ a = .expire c ∨
      (a.ender = some c ∧ p.ended = false) ∧ (k.stops = true ∨ k.starts = true) := by
  cases h with
  | shut ha hk hs =>
    exact Or.inr (Or.inr ⟨⟨ha.ender, ExecutionSession.opens_not_ended ha⟩, Or.inl hk⟩)
  | shutIdle ha hs =>
    exact Or.inr (Or.inr ⟨⟨ha.ender, ExecutionSession.opens_not_ended ha⟩, Or.inl rfl⟩)
  | bounce e hk hs hb =>
    rcases shut_up_cases hs hr with rfl | ha
    · exact Or.inl (.refl hr)
    · exact Or.inr (Or.inr ⟨ha, Or.inr hk⟩)
  | respawn spawn hk hs hb hq =>
    rcases shut_up_cases hs hr with rfl | ha
    · rw [(up_iff.mp hr).2] at hb
      cases hb
    · exact Or.inr (Or.inr ⟨ha, Or.inr hk⟩)
  | stopped spawn o => exact Or.inr (Or.inr ⟨⟨rfl, rfl⟩, Or.inl rfl⟩)
  | startFails e hk => exact Or.inr (Or.inr ⟨⟨rfl, rfl⟩, Or.inr hk⟩)
  | started hk ha => exact Or.inr (Or.inr ⟨⟨rfl, rfl⟩, Or.inr hk⟩)
  | died e ha =>
    rw [(up_iff.mp hr).2] at ha
    cases ha
  | overdue e => exact Or.inr (Or.inl rfl)
  | sent ho => exact Or.inl (.setPipe hr)
  | straySent ho => exact Or.inl (.setPipe hr)
  | stopSent ho => exact Or.inl (.setPipe hr)
  | took ho hm => exact Or.inl (.setPipe hr)
  | strayTook hm => exact Or.inl (.setPipe hr)
  | _ => exact Or.inl (.refl hr)

/-- The worker has an answer to the request it takes next, or is told to stop. -/
def serves (I : Interpreter ν) (machine : Machine) (r : PythonRuntime ν) : Bool :=
  match r.pipe.requests with
  | [] | .stop :: _ => true
  | c :: _ => (serveCommand I machine r.space c).isSome

lemma work_lasts {machine : Machine} (h : r.work I machine = some r') (hr : r.up = true)
    (hs : r.serves I machine = true) (hn : r.pipe.requests.head? ≠ some .stop) : r.Lasts I r' := by
  rw [work] at h
  split at h
  · split at h
    · cases h
    · next c rest hq =>
      have hc : (serveCommand I machine r.space c).isSome = true := by
        cases c with
        | stop =>
          rw [hq] at hn
          simp at hn
        | _ => simpa [serves, hq] using hs
      obtain ⟨⟨space, m⟩, hm⟩ := Option.isSome_iff_exists.mp hc
      rw [hm] at h
      cases h
      exact ⟨hr, rfl, Interpreter.grown_serveCommand hm⟩
  · cases h

def sentTo (r : PythonRuntime ν) (e : ExecutionId) : Bool :=
  (List.range (r.generation + 1)).any fun g => decide (e ∈ (r.pipes g).sent)

lemma sentTo_iff : r.sentTo e = true ↔ ∃ g ≤ r.generation, e ∈ (r.pipes g).sent := by
  simp [sentTo]

lemma setPipe_sent {pipe : Pipe} (h : (r.pipes i).sent ⊆ pipe.sent) (g : ℕ) :
    (r.pipes g).sent ⊆ (Function.update r.pipes i pipe g).sent := by
  by_cases hg : g = i
  · subst hg
    rw [Function.update_self]
    exact h
  · rw [Function.update_of_ne hg]
    exact List.Subset.refl _

lemma close_sent (g : ℕ) :
    (r.pipes g).sent ⊆ (Function.update r.pipes r.generation r.pipe.close g).sent := by
  have hc : (r.pipes r.generation).sent ⊆ r.pipe.close.sent := List.Subset.refl _
  exact setPipe_sent hc g

lemma stop_sent (g : ℕ) : (r.pipes g).sent ⊆ (r.stop.1.pipes g).sent := by
  rw [stop]
  split
  · exact List.Subset.refl _
  · split
    · exact List.Subset.refl _
    · exact close_sent g

lemma shut_sent (h : Shut r c a p b) (g : ℕ) : (r.pipes g).sent ⊆ (b.pipes g).sent := by
  cases h with
  | idle ha hs =>
    have hp := stop_sent (r := r) g
    rw [hs] at hp
    exact hp
  | direct ha => exact List.Subset.refl _
  | joined spawn o => exact close_sent g

lemma send_sent (pipe : Pipe) (d : Command) : pipe.sent ⊆ (pipe.send d).sent :=
  List.subset_append_left ..

lemma recv_sent {pipe pipe' : Pipe} {m : Message} (h : pipe.recv = some (m, pipe')) :
    pipe'.sent = pipe.sent ∧ pipe'.requests = pipe.requests := by
  rw [Pipe.recv] at h
  split at h
  · cases h
  · cases h
    exact ⟨rfl, rfl⟩

lemma turn_sent (h : Turn I r c a k p q r') (hg : g ≤ r.generation) :
    (r.pipes g).sent ⊆ (r'.pipes g).sent := by
  cases h with
  | shut ha hk hs =>
    have hp := stop_sent (r := r) g
    rw [hs] at hp
    exact hp
  | shutIdle ha hs =>
    have hp := stop_sent (r := r) g
    rw [hs] at hp
    exact hp
  | bounce e hk hs hb => exact shut_sent hs g
  | @respawn _ _ _ _ b spawn hk hs hb hq =>
    have hne : g ≠ b.generation + 1 := by
      rw [shut_generation hs]
      omega
    rw [show (b.start I spawn).pipes g = b.pipes g from Function.update_of_ne hne ..]
    exact shut_sent hs g
  | stopped spawn o => exact close_sent g
  | sent ho => exact setPipe_sent (send_sent ..) g
  | straySent ho => exact setPipe_sent (send_sent ..) g
  | stopSent ho => exact setPipe_sent (send_sent ..) g
  | took ho hm => exact setPipe_sent (by rw [(recv_sent hm).1]; exact List.Subset.refl _) g
  | strayTook hm => exact setPipe_sent (by rw [(recv_sent hm).1]; exact List.Subset.refl _) g
  | _ => exact List.Subset.refl _

lemma turn_generation (h : Turn I r c a k p q r') :
    r'.generation = r.generation ∨ r'.generation = r.generation + 1 := by
  cases h with
  | shut ha hk hs =>
    have hg := stop_generation (r := r)
    rw [hs] at hg
    exact Or.inl hg
  | shutIdle ha hs =>
    have hg := stop_generation (r := r)
    rw [hs] at hg
    exact Or.inl hg
  | bounce e hk hs hb => exact Or.inl (shut_generation hs)
  | respawn spawn hk hs hb hq => exact Or.inr (congrArg (· + 1) (shut_generation hs))
  | _ => exact Or.inl rfl

lemma turn_sentTo (h : Turn I r c a k p q r') (he : r.sentTo e = true) : r'.sentTo e = true := by
  rw [sentTo_iff] at he ⊢
  obtain ⟨g, hg, hs⟩ := he
  have hle : r.generation ≤ r'.generation := by
    rcases turn_generation h with hg' | hg' <;> omega
  exact ⟨g, hg.trans hle, turn_sent h hg hs⟩

lemma turn_sends (h : Turn I r c a k p q r') (hq : q.sends = some g) :
    k.calls = true ∧ g = r'.generation := by
  cases h with
  | call ha hk hr =>
    cases hq
    exact ⟨hk, rfl⟩
  | respawn spawn hk hs hb hsp => cases hsp <;> cases hq
  | _ => cases hq

lemma turn_finished (h : Turn I r c a k p .finished r') : k.calls = false := by
  cases h with
  | idle ha hk => exact Kind.not_calls hk
  | shutIdle ha hs => rfl
  | respawn spawn hk hs hb hsp => exact Kind.not_calls (Or.inr hk)
  | stopped spawn o => rfl
  | started hk ha => exact Kind.not_calls (Or.inr hk)

lemma turn_onWorker (h : Turn I r c a k p q r') (hq : q.onWorker = true) :
    p.onWorker = true ∨
      ∃ g, p = .sending g ∧ r' = r.setPipe g ((r.pipes g).send (k.command c)) := by
  cases h with
  | sent ho => exact Or.inr ⟨_, rfl, rfl⟩
  | respawn spawn hk hs hb hsp => cases hsp <;> cases hq
  | probing | nothing | found | fetched => exact Or.inl rfl
  | _ => cases hq

lemma command_requestId (hk : k.calls = true) : (k.command c).requestId = some c := by
  cases k <;> first | rfl | cases hk

lemma work_sent {machine : Machine} (h : r.work I machine = some r') :
    r'.generation = r.generation ∧ ∀ g, (r'.pipes g).sent = (r.pipes g).sent := by
  have hsent : ∀ pipe : Pipe, pipe.sent = r.pipe.sent →
      ∀ g, (Function.update r.pipes r.generation pipe g).sent = (r.pipes g).sent := by
    intro pipe hp g
    by_cases hg : g = r.generation
    · subst hg
      rw [Function.update_self, hp]
      rfl
    · rw [Function.update_of_ne hg]
  rw [work] at h
  split at h
  · split at h
    · cases h
    · split at h
      · cases h
        exact ⟨rfl, hsent _ rfl⟩
      · cases h
        exact ⟨rfl, hsent _ rfl⟩
  · cases h

lemma acts_sent (h : Acts I r a r') :
    r'.generation = r.generation ∧ ∀ g, (r'.pipes g).sent = (r.pipes g).sent := by
  cases h with
  | work hw => exact work_sent hw
  | exit he =>
    obtain ⟨rfl, -⟩ := exit_cases he
    exact ⟨rfl, fun _ => rfl⟩

end PythonRuntime

namespace ExecutionSession

variable {x y : ExecutionSession ν} {a : SessionAction} {c : OpId} {k : Kind} {p q : Phase} {g : ℕ}

structure Orderly (x : ExecutionSession ν) : Prop where
  sending : ∀ c k p g, x.ops c = some ⟨k, p⟩ → p.sends = some g →
    k.calls = true ∧ g ≤ x.runtime.generation
  finished : ∀ c k, x.ops c = some ⟨k, .finished⟩ → k.calls = false
  sent : ∀ c k p, x.ops c = some ⟨k, p⟩ → p.onWorker = true → x.runtime.sentTo c = true

lemma Orderly.advance (h : x.Orderly) (hc : x.ops c = some ⟨k, p⟩) (ha : Advances I x c a k p q y) :
    y.Orderly := by
  have hgen : x.runtime.generation ≤ y.runtime.generation := by
    rcases PythonRuntime.turn_generation ha.turn with hg | hg <;> omega
  constructor
  case sending =>
    intro d j p' g hd hs
    by_cases hdc : d = c
    · subst hdc
      cases ha.self.symm.trans hd
      obtain ⟨hk, hg⟩ := PythonRuntime.turn_sends ha.turn hs
      exact ⟨hk, hg.le⟩
    · obtain ⟨hk, hg⟩ := h.sending d j p' g ((ha.other hdc).symm.trans hd) hs
      exact ⟨hk, hg.trans hgen⟩
  case finished =>
    intro d j hd
    by_cases hdc : d = c
    · subst hdc
      cases ha.self.symm.trans hd
      exact PythonRuntime.turn_finished ha.turn
    · exact h.finished d j ((ha.other hdc).symm.trans hd)
  case sent =>
    intro d j p' hd hw
    by_cases hdc : d = c
    · subst hdc
      cases ha.self.symm.trans hd
      rcases PythonRuntime.turn_onWorker ha.turn hw with hw' | ⟨g, rfl, hr⟩
      · exact PythonRuntime.turn_sentTo ha.turn (h.sent d k p hc hw')
      · obtain ⟨hk, hg⟩ := h.sending d k _ g hc rfl
        rw [PythonRuntime.sentTo_iff, hr]
        refine ⟨g, hg, ?_⟩
        simp [PythonRuntime.setPipe, Pipe.send, PythonRuntime.command_requestId hk]
    · exact PythonRuntime.turn_sentTo ha.turn (h.sent d j p' ((ha.other hdc).symm.trans hd) hw)

lemma Orderly.acts {r : PythonRuntime ν} (h : x.Orderly) (hr : Acts I x.runtime a r) :
    (x.withRuntime r).Orderly := by
  obtain ⟨hg, hs⟩ := PythonRuntime.acts_sent hr
  constructor
  case sending =>
    intro d j p' g hd hp
    obtain ⟨hk, hle⟩ := h.sending d j p' g hd hp
    exact ⟨hk, hle.trans hg.ge⟩
  case finished =>
    exact h.finished
  case sent =>
    intro d j p' hd hw
    have hd' := h.sent d j p' hd hw
    rw [PythonRuntime.sentTo_iff] at hd' ⊢
    obtain ⟨g, hle, hm⟩ := hd'
    exact ⟨g, hle.trans hg.ge, by rw [withRuntime_runtime, hs]; exact hm⟩

lemma Orderly.update (h : x.Orderly) (hr : y.runtime = x.runtime)
    (ho : y.ops = Function.update x.ops c (some ⟨k, q⟩))
    (hs : ∀ g, q.sends = some g → ∃ p, x.ops c = some ⟨k, p⟩ ∧ p.sends = some g)
    (hq : q.onWorker = false ∧ q ≠ .finished) : y.Orderly := by
  have hother : ∀ d j p', y.ops d = some ⟨j, p'⟩ →
      d = c ∧ k = j ∧ q = p' ∨ x.ops d = some ⟨j, p'⟩ := by
    intro d j p' hd
    rw [ho] at hd
    by_cases hdc : d = c
    · subst hdc
      rw [Function.update_self] at hd
      cases hd
      exact Or.inl ⟨rfl, rfl, rfl⟩
    · rw [Function.update_of_ne hdc] at hd
      exact Or.inr hd
  constructor
  case sending =>
    intro d j p' g hd hp
    rw [hr]
    rcases hother d j p' hd with ⟨rfl, rfl, rfl⟩ | hx
    · obtain ⟨p, hc, hpg⟩ := hs g hp
      exact h.sending d k p g hc hpg
    · exact h.sending d j p' g hx hp
  case finished =>
    intro d j hd
    rcases hother d j _ hd with ⟨rfl, rfl, rfl⟩ | hx
    · exact absurd rfl hq.2
    · exact h.finished d j hx
  case sent =>
    intro d j p' hd hw
    rw [hr]
    rcases hother d j p' hd with ⟨rfl, rfl, rfl⟩ | hx
    · rw [hq.1] at hw
      cases hw
    · exact h.sent d j p' hx hw

theorem orderly_closed : Closed I (fun x : ExecutionSession ν => x.Orderly) where
  created k id := ⟨fun _ _ _ _ h => (by cases h), fun _ _ h => (by cases h), fun _ _ _ h => (by cases h)⟩
  schedule x c k _ h := by
    refine h.update rfl rfl (fun g hg => by cases hg) ⟨rfl, by simp⟩
  step x a y h hy := by
    rcases step_cases hy with ⟨r, hr, rfl⟩ | ⟨c, k, p, q, hc, ha⟩
    · exact h.acts hr
    · exact h.advance hc ha
  cancel x c h := by
    rcases cancel_cases c x with hc | ⟨k, p, hc, hp, he⟩
    · rw [hc]
      exact h
    · rw [he]
      refine h.update rfl (leave_ops hc) (fun g hg => ⟨p, hc, ?_⟩) ?_
      · cases p <;> cases hg
        rfl
      · cases p <;> simp [cancelled, Phase.onWorker]

end ExecutionSession

end NotebookExecution.Execution
