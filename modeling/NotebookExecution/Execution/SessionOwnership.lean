import NotebookExecution.Execution.SessionManager

/-! Whether the sessions own the runtimes. A creation under an identifier that is taken replaces the
session and forgets the runtime that it was bound to. -/

namespace NotebookExecution.Execution

open Library Library.Runs

variable {ν : Type} {I : Interpreter ν}

namespace PythonRuntime

variable {r : PythonRuntime ν} {spawn : Spawn}

structure Fades (q r : PythonRuntime ν) : Prop where
  isAlive : r.isAlive = true → q.isAlive = true
  alive : r.alive = true → q.alive = true ∧ (q.isAlive = true → r.isAlive = true)

lemma Fades.refl (r : PythonRuntime ν) : Fades r r := ⟨id, fun h => ⟨h, id⟩⟩

lemma Fades.trans {q u : PythonRuntime ν} (h : Fades r q) (h' : Fades q u) : Fades r u :=
  ⟨fun hu => h.isAlive (h'.isAlive hu),
    fun hu => ⟨(h.alive (h'.alive hu).1).1, fun hr => (h'.alive hu).2 ((h.alive (h'.alive hu).1).2 hr)⟩⟩

lemma fades_out {q : PythonRuntime ν} (ha : r.isAlive = false) (hl : r.alive = false) : Fades q r :=
  ⟨fun h => absurd h (by rw [ha]; decide), fun h => absurd h (by rw [hl]; decide)⟩

lemma stopFully_cases (r : PythonRuntime ν) :
    (r.status = .terminating ∨ r.status = .terminated) ∧ r.stopFully = r ∨
      r.stopFully.isAlive = false ∧ r.stopFully.alive = false := by
  by_cases hs : r.status = .terminating ∨ r.status = .terminated
  · refine Or.inl ⟨hs, ?_⟩
    rw [stopFully, stop, if_pos hs]
    rfl
  · apply Or.inr
    rw [stopFully, stop, if_neg hs]
    cases r.alive with
    | true => exact ⟨rfl, rfl⟩
    | false => exact ⟨rfl, rfl⟩

lemma fades_stopFully (r : PythonRuntime ν) : Fades r r.stopFully := by
  rcases stopFully_cases r with ⟨-, he⟩ | ⟨ha, hl⟩
  · rw [he]
    exact .refl r
  · exact fades_out ha hl

lemma stopFully_not_alive (r : PythonRuntime ν) : r.stopFully.isAlive = false := by
  rcases stopFully_cases r with ⟨hs, he⟩ | ⟨ha, -⟩
  · rw [he, isAlive]
    rcases hs with hs | hs <;> rw [hs] <;> rfl
  · exact ha

lemma startFully_cases (I : Interpreter ν) (spawn : Spawn) (r : PythonRuntime ν) :
    spawn = .up ∧ (r.startFully I spawn).isAlive = true ∨
      spawn ≠ .up ∧ (r.startFully I spawn).isAlive = false ∧ (r.startFully I spawn).alive = false := by
  cases spawn with
  | up => exact Or.inl ⟨rfl, rfl⟩
  | exited => exact Or.inr ⟨by simp, rfl, rfl⟩
  | refused reason => exact Or.inr ⟨by simp, rfl, rfl⟩

end PythonRuntime

namespace SessionManager

open PythonRuntime

variable {s t : SessionManager ν} {k j : SessionId} {b b' : BoundSession} {x y : ℕ} {spawn : Spawn}
  {f : PythonRuntime ν → PythonRuntime ν}

lemma running_iff : s.running x = true ↔ ∃ r, s.runtimes x = some r ∧ r.isAlive = true := by
  rw [running, Option.any_eq_true]

lemma live_iff : s.live x = true ↔ ∃ r, s.runtimes x = some r ∧ r.alive = true := by
  rw [live, Option.any_eq_true]

lemma onRuntime_self : (s.onRuntime x f).runtimes x = (s.runtimes x).map f := Function.update_self ..

lemma onRuntime_other (h : y ≠ x) : (s.onRuntime x f).runtimes y = s.runtimes y :=
  Function.update_of_ne h ..

def Calmer (s t : SessionManager ν) : Prop :=
  ∀ x r, t.runtimes x = some r → ∃ q, s.runtimes x = some q ∧ Fades q r

namespace Calmer

lemma refl (s : SessionManager ν) : Calmer s s := fun _ r h => ⟨r, h, .refl r⟩

lemma trans {u : SessionManager ν} (h : Calmer s t) (h' : Calmer t u) : Calmer s u := by
  intro x r hr
  obtain ⟨q, hq, hqr⟩ := h' x r hr
  obtain ⟨v, hv, hvq⟩ := h x q hq
  exact ⟨v, hv, hvq.trans hqr⟩

lemma running (h : Calmer s t) (hx : t.running x = true) : s.running x = true := by
  obtain ⟨r, hr, ha⟩ := running_iff.mp hx
  obtain ⟨q, hq, hqr⟩ := h x r hr
  exact running_iff.mpr ⟨q, hq, hqr.isAlive ha⟩

lemma live (h : Calmer s t) (hx : t.live x = true) : s.live x = true := by
  obtain ⟨r, hr, ha⟩ := live_iff.mp hx
  obtain ⟨q, hq, hqr⟩ := h x r hr
  exact live_iff.mpr ⟨q, hq, (hqr.alive ha).1⟩

lemma live_running (h : Calmer s t) (hs : ∀ x, s.live x = true → s.running x = true)
    (hx : t.live x = true) : t.running x = true := by
  obtain ⟨r, hr, ha⟩ := live_iff.mp hx
  obtain ⟨q, hq, hqr⟩ := h x r hr
  obtain ⟨q', hq', hqa⟩ := running_iff.mp (hs x (h.live hx))
  obtain rfl : q = q' := Option.some_inj.mp (hq.symm.trans hq')
  exact running_iff.mpr ⟨r, hr, (hqr.alive ha).2 hqa⟩

lemma missing (h : Calmer s t) (hx : s.runtimes x = none) : t.runtimes x = none := by
  cases hr : t.runtimes x with
  | none => rfl
  | some r =>
    obtain ⟨q, hq, -⟩ := h x r hr
    rw [hx] at hq
    cases hq

lemma not_running (h : Calmer s t) (hs : s.running x = false) : t.running x = false := by
  rw [← Bool.not_eq_true] at hs ⊢
  exact fun ht => hs (h.running ht)

end Calmer

lemma calmer_onRuntime (hf : ∀ r, Fades r (f r)) (x : ℕ) (s : SessionManager ν) :
    Calmer s (s.onRuntime x f) := by
  intro y r hr
  by_cases hy : y = x
  · subst hy
    rw [onRuntime_self] at hr
    obtain ⟨q, hq, rfl⟩ := Option.map_eq_some_iff.mp hr
    exact ⟨q, hq, hf q⟩
  · rw [onRuntime_other hy] at hr
    exact ⟨r, hr, .refl r⟩

lemma onRuntime_quiet (hf : ∀ r, (f r).isAlive = false) (x : ℕ) (s : SessionManager ν) :
    (s.onRuntime x f).running x = false := by
  rw [running, onRuntime_self]
  cases s.runtimes x with
  | none => rfl
  | some r => exact hf r

variable {α : Type} {g : α → ℕ} {l : List α}

lemma foldl_calmer (hf : ∀ r, Fades r (f r)) (g : α → ℕ) (l : List α) (s : SessionManager ν) :
    Calmer s (l.foldl (fun t a => t.onRuntime (g a) f) s) := by
  induction l generalizing s with
  | nil => exact .refl s
  | cons a l ih => exact (calmer_onRuntime hf (g a) s).trans (ih _)

lemma foldl_fields (f : PythonRuntime ν → PythonRuntime ν) (g : α → ℕ) (l : List α)
    (s : SessionManager ν) :
    (l.foldl (fun t a => t.onRuntime (g a) f) s).registry = s.registry ∧
      (l.foldl (fun t a => t.onRuntime (g a) f) s).next = s.next := by
  induction l generalizing s with
  | nil => exact ⟨rfl, rfl⟩
  | cons a l ih => exact ih (s.onRuntime (g a) f)

lemma foldl_quiet (hf : ∀ r, Fades r (f r)) (hq : ∀ r, (f r).isAlive = false) {a : α} (ha : a ∈ l)
    (s : SessionManager ν) : (l.foldl (fun t a => t.onRuntime (g a) f) s).running (g a) = false := by
  induction l generalizing s with
  | nil => cases ha
  | cons a' l ih =>
    rcases List.mem_cons.mp ha with rfl | ha
    · exact (foldl_calmer hf g l (s.onRuntime (g a) f)).not_running (onRuntime_quiet hq (g a) s)
    · exact ih ha (s.onRuntime (g a') f)

lemma fades_stopRunning (r : PythonRuntime ν) : Fades r (stopRunning r) := by
  rw [stopRunning]
  split_ifs
  · exact fades_stopFully r
  · exact .refl r

lemma stopRunning_not_alive (r : PythonRuntime ν) : (stopRunning r).isAlive = false := by
  rw [stopRunning]
  split_ifs with h
  · exact r.stopFully_not_alive
  · exact decide_eq_false fun hr => h (Or.inr hr)

structure Tidy (s : SessionManager ν) : Prop where
  fresh : ∀ x, s.next ≤ x → s.runtimes x = none
  live : ∀ x, s.live x = true → s.running x = true
  registered : ∀ x, s.running x = true → x ∈ s.registry
  known : ∀ x ∈ s.registry, x < s.next
  bound : ∀ k b, s.sessions.get? k = some b → b.runtime ∈ s.registry
  active : ∀ k b, s.sessions.get? k = some b → s.running b.runtime = true → b.status = .active
  single : ∀ k j b b', s.sessions.get? k = some b → s.sessions.get? j = some b' →
    b.runtime = b'.runtime → k = j

def Holds (s : SessionManager ν) (k : SessionId) (x : ℕ) : Prop :=
  ∃ b, s.sessions.get? k = some b ∧ b.runtime = x

structure Owned (s : SessionManager ν) : Prop where
  held : ∀ x ∈ s.registry, s.running x = true → ∃! k, s.Holds k x
  stoppable : ∀ x, s.stopListed.live x = false

def Replaces (s : SessionManager ν) : Request → Prop
  | .create k spawn => spawn = .up → ∀ b, s.sessions.get? k = some b → s.running b.runtime = false
  | _ => True

lemma tidy_empty : Tidy (empty : SessionManager ν) where
  fresh x _ := rfl
  live x h := by cases h
  registered x h := by cases h
  known x h := by cases h
  bound k b h := by cases h
  active k b h := by cases h
  single k j b b' h := by cases h

/-! ## What the calls keep -/

lemma Tidy.calm (h : Tidy s) (hc : Calmer s t) (hg : t.registry = s.registry) (hn : t.next = s.next)
    (hb : ∀ k b, t.sessions.get? k = some b → ∃ b', s.sessions.get? k = some b' ∧ b'.runtime = b.runtime ∧
      (t.running b.runtime = true → b.status = b'.status)) : Tidy t where
  fresh x hx := by
    rw [hn] at hx
    exact hc.missing (h.fresh x hx)
  live x hx := hc.live_running h.live hx
  registered x hx := by
    rw [hg]
    exact h.registered x (hc.running hx)
  known x hx := by
    rw [hg] at hx
    rw [hn]
    exact h.known x hx
  bound k b hk := by
    obtain ⟨b', hk', he, -⟩ := hb k b hk
    rw [hg, ← he]
    exact h.bound k b' hk'
  active k b hk hrun := by
    obtain ⟨b', hk', he, hst⟩ := hb k b hk
    rw [hst hrun]
    apply h.active k b' hk'
    rw [he]
    exact hc.running hrun
  single k j b b' hk hj he := by
    obtain ⟨c, hk', hc', -⟩ := hb k b hk
    obtain ⟨c', hj', hc'', -⟩ := hb j b' hj
    apply h.single k j c c' hk' hj'
    rw [hc', hc'', he]

lemma stopSession_cases (k : SessionId) (s : SessionManager ν) :
    s.stopSession k = s ∧ (∀ b, s.sessions.get? k = some b → b.status = .stopping ∨ b.status = .stopped) ∨
      ∃ b, s.sessions.get? k = some b ∧
        s.stopSession k = { s.onRuntime b.runtime stopFully with
          sessions := s.sessions.set k { b with status := .stopped } } := by
  rw [stopSession]
  cases hk : s.sessions.get? k with
  | none => exact Or.inl ⟨rfl, fun b hb => by cases hb⟩
  | some b =>
    dsimp only
    split_ifs with hs
    · refine Or.inl ⟨rfl, fun b' hb => ?_⟩
      cases hb
      exact hs
    · exact Or.inr ⟨b, rfl, rfl⟩

lemma stopSession_calmer (k : SessionId) (s : SessionManager ν) : Calmer s (s.stopSession k) := by
  rcases stopSession_cases k s with ⟨he, -⟩ | ⟨b, -, he⟩
  · rw [he]
    exact .refl s
  · rw [he]
    exact calmer_onRuntime fades_stopFully b.runtime s

lemma stopSession_sessions (hj : (s.stopSession k).sessions.get? j = some b) :
    ∃ b', s.sessions.get? j = some b' ∧ b'.runtime = b.runtime ∧
      (b = b' ∨ b.status = .stopped ∧ j = k ∧ (s.stopSession k).running b.runtime = false) := by
  rcases stopSession_cases k s with ⟨he, -⟩ | ⟨b', hk, he⟩
  · rw [he] at hj
    exact ⟨b, hj, rfl, Or.inl rfl⟩
  · rw [he] at hj ⊢
    have hset : (s.sessions.set k { b' with status := .stopped }).get? j = some b := hj
    rw [Dict.get?_set] at hset
    split_ifs at hset with hjk
    · cases hset
      subst hjk
      exact ⟨b', hk, rfl, Or.inr ⟨rfl, rfl, onRuntime_quiet stopFully_not_alive b'.runtime s⟩⟩
    · exact ⟨b, hset, rfl, Or.inl rfl⟩

lemma stopSession_fields (k : SessionId) (s : SessionManager ν) :
    (s.stopSession k).registry = s.registry ∧ (s.stopSession k).next = s.next := by
  rcases stopSession_cases k s with ⟨he, -⟩ | ⟨b, -, he⟩ <;> rw [he] <;> exact ⟨rfl, rfl⟩

lemma tidy_stopSession (h : Tidy s) (k : SessionId) : Tidy (s.stopSession k) := by
  obtain ⟨hg, hn⟩ := stopSession_fields k s
  apply h.calm (stopSession_calmer k s) hg hn
  intro j b hj
  obtain ⟨b', hj', he, rfl | ⟨-, -, hrun⟩⟩ := stopSession_sessions hj
  · exact ⟨b, hj', rfl, fun _ => rfl⟩
  · refine ⟨b', hj', he, fun hr => ?_⟩
    rw [hrun] at hr
    cases hr

lemma terminateAll_quiet (h : Tidy s) :
    Calmer s s.terminateAllSessions ∧ (∀ x, s.terminateAllSessions.running x = false) ∧
      s.terminateAllSessions.next = s.next := by
  rw [terminateAllSessions]
  generalize s.sessions.values.filter _ = unstopped
  obtain ⟨hg, hn⟩ := foldl_fields stopFully BoundSession.runtime unstopped s
  have ht := foldl_calmer fades_stopFully BoundSession.runtime unstopped s
  generalize unstopped.foldl _ s = t at hg hn ht ⊢
  obtain ⟨-, hn'⟩ := foldl_fields stopRunning id t.registry t
  have hu : Calmer s (t.registry.foldl (fun u x => u.onRuntime x stopRunning) t) :=
    ht.trans (foldl_calmer fades_stopRunning id t.registry t)
  refine ⟨hu, fun x => ?_, hn'.trans hn⟩
  rw [← Bool.not_eq_true]
  intro hrun
  have hx : x ∈ t.registry := hg ▸ h.registered x (hu.running hrun)
  have hquiet : (t.registry.foldl (fun u x => u.onRuntime x stopRunning) t).running x = false :=
    foldl_quiet (g := id) fades_stopRunning stopRunning_not_alive hx t
  exact absurd (hquiet.symm.trans hrun) (by decide)

lemma tidy_terminateAll (h : Tidy s) : Tidy s.terminateAllSessions := by
  obtain ⟨hc, hquiet, hn⟩ := terminateAll_quiet h
  constructor
  case fresh =>
    intro x hx
    exact hc.missing (h.fresh x (hn ▸ hx))
  case live =>
    intro x hx
    exact hc.live_running h.live hx
  case registered =>
    intro x hx
    rw [hquiet] at hx
    cases hx
  case known =>
    intro x hx
    cases hx
  case bound =>
    intro k b hk
    cases hk
  case active =>
    intro k b hk
    cases hk
  case single =>
    intro k j b b' hk
    cases hk

lemma startRuntime_other (hx : x ≠ s.next) : (s.startRuntime I spawn).runtimes x = s.runtimes x :=
  Function.update_of_ne hx ..

lemma startRuntime_self : (s.startRuntime I spawn).runtimes s.next =
    some ((made I (toString s.next)).startFully I spawn) := Function.update_self ..

lemma startRuntime_running : (s.startRuntime I spawn).running s.next = true ↔ spawn = .up := by
  rw [running, startRuntime_self, Option.any_some]
  rcases startFully_cases I spawn (made I (toString s.next)) with ⟨hs, ha⟩ | ⟨hs, ha, -⟩
  · exact iff_of_true ha hs
  · exact iff_of_false (by rw [ha]; decide) hs

lemma startRuntime_running_other (hx : x ≠ s.next) :
    (s.startRuntime I spawn).running x = s.running x := by
  rw [running, running, startRuntime_other hx]

lemma Tidy.unbound (h : Tidy s) (hk : s.sessions.get? k = some b) : b.runtime ≠ s.next :=
  (h.known _ (h.bound k b hk)).ne

lemma tidy_startRuntime (h : Tidy s) : Tidy (s.startRuntime I spawn) := by
  constructor
  case fresh =>
    intro x hx
    have hle : s.next + 1 ≤ x := hx
    rw [startRuntime_other (by omega)]
    exact h.fresh x (by omega)
  case live =>
    intro x hx
    by_cases hxn : x = s.next
    · subst hxn
      rw [live, startRuntime_self, Option.any_some] at hx
      rw [running, startRuntime_self, Option.any_some]
      rcases startFully_cases I spawn (made I (toString s.next)) with ⟨-, ha⟩ | ⟨-, -, hl⟩
      · exact ha
      · rw [hl] at hx
        cases hx
    · rw [startRuntime_running_other hxn]
      rw [live, startRuntime_other hxn] at hx
      exact h.live x hx
  case registered =>
    intro x hx
    by_cases hxn : x = s.next
    · exact List.mem_append_right _ (List.mem_singleton.mpr hxn)
    · rw [startRuntime_running_other hxn] at hx
      exact List.mem_append_left _ (h.registered x hx)
  case known =>
    intro x hx
    change x < s.next + 1
    rcases List.mem_append.mp hx with hx | hx
    · exact (h.known x hx).trans (Nat.lt_succ_self _)
    · rw [List.mem_singleton.mp hx]
      exact Nat.lt_succ_self _
  case bound =>
    intro k b hk
    exact List.mem_append_left _ (h.bound k b hk)
  case active =>
    intro k b hk hrun
    rw [startRuntime_running_other (h.unbound hk)] at hrun
    exact h.active k b hk hrun
  case single =>
    exact h.single

lemma createSession_cases (I : Interpreter ν) (k : SessionId) (spawn : Spawn) (s : SessionManager ν) :
    spawn = .up ∧ s.createSession I k spawn = { s.startRuntime I spawn with
        sessions := s.sessions.set k ⟨.active, s.next⟩ } ∨
      spawn ≠ .up ∧ s.createSession I k spawn = s.startRuntime I spawn := by
  rw [createSession]
  by_cases hs : spawn = .up
  · exact Or.inl ⟨hs, if_pos (startRuntime_running.mpr hs)⟩
  · exact Or.inr ⟨hs, if_neg fun hr => hs (startRuntime_running.mp hr)⟩

lemma tidy_create (h : Tidy s) (k : SessionId) (spawn : Spawn) : Tidy (s.createSession I k spawn) := by
  have ht : Tidy (s.startRuntime I spawn) := tidy_startRuntime h
  rcases createSession_cases I k spawn s with ⟨-, he⟩ | ⟨-, he⟩
  · have hget : ∀ j b, (s.sessions.set k ⟨.active, s.next⟩).get? j = some b →
        j = k ∧ b = ⟨.active, s.next⟩ ∨ s.sessions.get? j = some b := by
      intro j b hj
      rw [Dict.get?_set] at hj
      split_ifs at hj with hjk
      · exact Or.inl ⟨hjk, (Option.some_inj.mp hj).symm⟩
      · exact Or.inr hj
    rw [he]
    constructor
    case fresh =>
      exact ht.fresh
    case live =>
      exact ht.live
    case registered =>
      exact ht.registered
    case known =>
      exact ht.known
    case bound =>
      intro j b hj
      rcases hget j b hj with ⟨-, rfl⟩ | hj
      · exact List.mem_append_right _ List.mem_cons_self
      · exact ht.bound j b hj
    case active =>
      intro j b hj hrun
      rcases hget j b hj with ⟨-, rfl⟩ | hj
      · rfl
      · exact ht.active j b hj hrun
    case single =>
      intro i j b b' hi hj hb
      rcases hget i b hi with ⟨hik, rfl⟩ | hi' <;> rcases hget j b' hj with ⟨hjk, rfl⟩ | hj'
      · rw [hik, hjk]
      · exact absurd hb.symm (h.unbound hj')
      · exact absurd hb (h.unbound hi')
      · exact h.single i j b b' hi' hj' hb
  · rw [he]
    exact ht

lemma resetSession_cases (I : Interpreter ν) (k : SessionId) (spawn : Spawn) (s : SessionManager ν) :
    s.resetSession I k spawn = s ∨ ∃ b f, s.sessions.get? k = some b ∧ b.status = .active ∧
      s.resetSession I k spawn = s.onRuntime b.runtime f ∧ ∀ r, (f r).alive = true → (f r).isAlive = true := by
  rw [resetSession]
  cases hk : s.sessions.get? k with
  | none => exact Or.inl rfl
  | some b =>
    dsimp only
    split_ifs with hs
    · exact Or.inl rfl
    · refine Or.inr ⟨b, _, rfl, not_not.mp hs, rfl, fun r hlive => ?_⟩
      rcases startFully_cases I spawn r.stopFully with ⟨-, ha⟩ | ⟨-, -, hout⟩
      · exact ha
      · rw [hout] at hlive
        cases hlive

lemma tidy_reset (h : Tidy s) (k : SessionId) (spawn : Spawn) : Tidy (s.resetSession I k spawn) := by
  rcases resetSession_cases I k spawn s with he | ⟨b, f, hk, hactive, he, hf⟩
  · rw [he]
    exact h
  · have hother : ∀ {x}, x ≠ b.runtime → (s.onRuntime b.runtime f).running x = s.running x := by
      intro x hx
      rw [running, running, onRuntime_other hx]
    rw [he]
    constructor
    case fresh =>
      intro x hx
      have hnone : s.runtimes x = none := h.fresh x hx
      by_cases hxb : x = b.runtime
      · subst hxb
        rw [onRuntime_self, hnone]
        rfl
      · rw [onRuntime_other hxb, hnone]
    case live =>
      intro x hx
      by_cases hxb : x = b.runtime
      · subst hxb
        rw [live, onRuntime_self] at hx
        rw [running, onRuntime_self]
        cases hr : s.runtimes b.runtime with
        | none =>
          rw [hr] at hx
          cases hx
        | some r =>
          rw [hr] at hx
          exact hf r hx
      · rw [hother hxb]
        rw [live, onRuntime_other hxb] at hx
        exact h.live x hx
    case registered =>
      intro x hx
      by_cases hxb : x = b.runtime
      · rw [hxb]
        exact h.bound k b hk
      · rw [hother hxb] at hx
        exact h.registered x hx
    case known =>
      exact h.known
    case bound =>
      exact h.bound
    case active =>
      intro j c hj hrun
      by_cases hcb : c.runtime = b.runtime
      · obtain rfl := h.single j k c b hj hk hcb
        obtain rfl : b = c := Option.some_inj.mp (hk.symm.trans hj)
        exact hactive
      · rw [hother hcb] at hrun
        exact h.active j c hj hrun
    case single =>
      exact h.single

lemma calmer_exit (x : ℕ) (s : SessionManager ν) :
    Calmer s (s.onRuntime x fun r => { r with alive := false }) := by
  have hf : ∀ r : PythonRuntime ν, Fades r { r with alive := false } := fun r => ⟨id, fun h => by cases h⟩
  exact calmer_onRuntime hf x s

lemma tidy_step {a : Request} (h : Tidy s) (ht : step I s a = some t) : Tidy t := by
  cases a <;> obtain rfl := Option.some_inj.mp ht
  case create k spawn => exact tidy_create h k spawn
  case reset k spawn => exact tidy_reset h k spawn
  case stop k => exact tidy_stopSession h k
  case terminateAll => exact tidy_terminateAll h
  case exit x =>
    exact h.calm (calmer_exit x s) rfl rfl fun k b hk => ⟨b, hk, rfl, fun _ => rfl⟩

lemma Tidy.holds_unique (h : Tidy s) (hk : s.Holds k x) (hj : s.Holds j x) : k = j := by
  obtain ⟨b, hb, hx⟩ := hk
  obtain ⟨b', hb', hx'⟩ := hj
  exact h.single k j b b' hb hb' (hx.trans hx'.symm)

lemma stopSession_other (hj : j ≠ k) : (s.stopSession k).sessions.get? j = s.sessions.get? j := by
  rcases stopSession_cases k s with ⟨he, -⟩ | ⟨b, -, he⟩ <;> rw [he]
  exact Dict.get?_set_other hj

lemma stopSession_holds : (s.stopSession k).Holds j x ↔ s.Holds j x := by
  constructor
  · rintro ⟨b, hb, rfl⟩
    obtain ⟨b', hb', he, -⟩ := stopSession_sessions hb
    exact ⟨b', hb', he⟩
  · rintro ⟨b, hb, rfl⟩
    by_cases hj : j = k
    · subst hj
      rcases stopSession_cases j s with ⟨he, -⟩ | ⟨b', hb', he⟩
      · rw [he]
        exact ⟨b, hb, rfl⟩
      · obtain rfl : b = b' := Option.some_inj.mp (hb.symm.trans hb')
        rw [he]
        exact ⟨_, Dict.get?_set_self, rfl⟩
    · exact ⟨b, (stopSession_other hj).trans hb, rfl⟩

lemma foldl_stop_live {l : List SessionId} (h : Tidy s)
    (hx : (l.foldl (fun t k => t.stopSession k) s).live x = true) :
    s.live x = true ∧ ∀ k ∈ l, ∀ b, s.sessions.get? k = some b → b.runtime = x →
      b.status = .stopping ∨ b.status = .stopped := by
  induction l generalizing s with
  | nil => exact ⟨hx, fun k hk => absurd hk List.not_mem_nil⟩
  | cons k l ih =>
    obtain ⟨hlive, hl⟩ := ih (tidy_stopSession h k) hx
    have hk : ∀ b, s.sessions.get? k = some b → b.runtime = x → b.status = .stopping ∨ b.status = .stopped := by
      intro b hb hbx
      rcases stopSession_cases k s with ⟨-, hs⟩ | ⟨b', hb', he⟩
      · exact hs b hb
      · obtain rfl : b = b' := Option.some_inj.mp (hb.symm.trans hb')
        have hrun := (tidy_stopSession h k).live x hlive
        rw [he, ← hbx] at hrun
        have hquiet := onRuntime_quiet stopFully_not_alive b.runtime s
        exact absurd (hquiet.symm.trans hrun) (by decide)
    refine ⟨(stopSession_calmer k s).live hlive, fun j hj b hb hbx => ?_⟩
    by_cases hjk : j = k
    · exact hk b (hjk ▸ hb) hbx
    · have hjl : j ∈ l := (List.mem_cons.mp hj).resolve_left hjk
      exact hl j hjl b ((stopSession_other hjk).trans hb) hbx

lemma owned_iff (h : Tidy s) : Owned s ↔ ∀ x, s.running x = true → ∃ k, s.Holds k x := by
  constructor
  · intro ho x hx
    obtain ⟨k, hk, -⟩ := ho.held x (h.registered x hx) hx
    exact ⟨k, hk⟩
  · intro hall
    constructor
    · intro x _ hx
      obtain ⟨k, hk⟩ := hall x hx
      exact ⟨k, hk, fun j hj => h.holds_unique hj hk⟩
    · intro x
      rw [← Bool.not_eq_true]
      intro hx
      obtain ⟨hlive, hl⟩ := foldl_stop_live h hx
      obtain ⟨k, b, hb, rfl⟩ := hall x (h.live x hlive)
      have hmem : k ∈ s.sessions.items.map Prod.fst :=
        List.mem_map_of_mem (f := Prod.fst) (Dict.mem_items.mpr hb)
      have hactive := h.active k b hb (h.live _ hlive)
      rcases hl k hmem b hb rfl with hst | hst <;> rw [hactive] at hst <;> cases hst

lemma held_create_iff (h : Tidy s) (hall : ∀ x, s.running x = true → ∃ k, s.Holds k x) :
    (∀ x, (s.createSession I k spawn).running x = true → ∃ j, (s.createSession I k spawn).Holds j x) ↔
      (spawn = .up → ∀ b, s.sessions.get? k = some b → s.running b.runtime = false) := by
  rcases createSession_cases I k spawn s with ⟨hs, he⟩ | ⟨hs, he⟩ <;> rw [he]
  · constructor
    · intro howned _ b hb
      rw [← Bool.not_eq_true]
      intro hrun
      have hne := h.unbound hb
      obtain ⟨j, c, hc, hcb⟩ := howned b.runtime ((startRuntime_running_other hne).trans hrun)
      have hset : (s.sessions.set k ⟨.active, s.next⟩).get? j = some c := hc
      rw [Dict.get?_set] at hset
      split_ifs at hset with hjk
      · cases hset
        exact hne hcb.symm
      · exact hjk (h.single j k c b hset hb hcb)
    · intro hr x hx
      by_cases hxn : x = s.next
      · exact ⟨k, _, Dict.get?_set_self, hxn.symm⟩
      · have hrun : s.running x = true := (startRuntime_running_other hxn).symm.trans hx
        obtain ⟨j, b, hb, rfl⟩ := hall x hrun
        have hjk : j ≠ k := by
          rintro rfl
          rw [hr hs b hb] at hrun
          cases hrun
        exact ⟨j, b, (Dict.get?_set_other hjk).trans hb, rfl⟩
  · refine iff_of_true (fun x hx => ?_) fun hup => absurd hup hs
    have hxn : x ≠ s.next := by
      rintro rfl
      exact hs (startRuntime_running.mp hx)
    exact hall x ((startRuntime_running_other hxn).symm.trans hx)

lemma held_reset (hall : ∀ x, s.running x = true → ∃ k, s.Holds k x)
    (hx : (s.resetSession I k spawn).running x = true) : ∃ j, (s.resetSession I k spawn).Holds j x := by
  rcases resetSession_cases I k spawn s with he | ⟨b, f, hk, -, he, -⟩ <;> rw [he] at hx ⊢
  · exact hall x hx
  · by_cases hxb : x = b.runtime
    · exact ⟨k, b, hk, hxb.symm⟩
    · rw [running, onRuntime_other hxb] at hx
      exact hall x hx

lemma owned_step_iff {a : Request} (h : Tidy s) (ho : Owned s) (ht : step I s a = some t) :
    Owned t ↔ Replaces s a := by
  rw [owned_iff (tidy_step h ht)]
  have hall := (owned_iff h).mp ho
  cases a <;> obtain rfl := Option.some_inj.mp ht
  case create k spawn => exact held_create_iff h hall
  case reset k spawn => exact iff_of_true (fun x hx => held_reset hall hx) trivial
  case stop k =>
    refine iff_of_true (fun x hx => ?_) trivial
    obtain ⟨j, hj⟩ := hall x ((stopSession_calmer k s).running hx)
    exact ⟨j, stopSession_holds.mpr hj⟩
  case terminateAll =>
    refine iff_of_true (fun x hx => ?_) trivial
    rw [(terminateAll_quiet h).2.1 x] at hx
    cases hx
  case exit x =>
    exact iff_of_true (fun y hy => hall y ((calmer_exit x s).running hy)) trivial

lemma owned_empty : Owned (empty : SessionManager ν) :=
  (owned_iff tidy_empty).mpr fun x hx => by cases hx

theorem sessions_own_iff (I : Interpreter ν) (as : List Request) :
    Along (step I) (fun _ _ t => Owned t) empty as ↔ Along (step I) (fun s a _ => Replaces s a) empty as :=
  along_iff_of_invariant (fun _ _ _ h ht => tidy_step h ht) (fun _ _ _ h ho ht => owned_step_iff h ho ht)
    tidy_empty owned_empty

def twice : List Request := [.create "analysis" .up, .create "analysis" .up]

/-- The worker of the first session lives on, also when the session that is listed is stopped. -/
theorem first_worker_lost :
    (∃ t, exec (step echo) empty twice = some t ∧ t.sessions.items = [("analysis", ⟨.active, 1⟩)] ∧
      t.running 0 = true ∧ t.stopListed.live 0 = true) ∧
    ¬ ∀ as, Along (step echo) (fun _ _ t => Owned t) empty as := by
  obtain ⟨t, ht⟩ : ∃ t, exec (step echo) empty twice = some t := ⟨_, rfl⟩
  have hlost : t.sessions.items = [("analysis", ⟨.active, 1⟩)] ∧ t.running 0 = true ∧
      t.stopListed.live 0 = true := by
    cases ht
    exact ⟨rfl, rfl, rfl⟩
  refine ⟨⟨t, ht, hlost⟩, fun h => ?_⟩
  have hstop := ((h twice).reach owned_empty ht).stoppable 0
  exact absurd (hstop.symm.trans hlost.2.2) (by decide)

end SessionManager

end NotebookExecution.Execution
