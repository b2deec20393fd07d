import NotebookExecution.Execution.LockOrder

/-! Cells that are called together on one session run one after another: what the session and its
worker do is what one interpreter does that is given the codes in the order in which their calls
acquire the lock. -/

namespace NotebookExecution.Execution

open Library.Runs

variable {ν : Type} {I : Interpreter ν}

namespace ExecutionSession

variable {s s₀ t : ExecutionSession ν} {c d : OpId} {a : SessionAction} {calls : Finset OpId}
  {L : Ledger ν} {k : Kind} {p q : Phase}

/-! ## Runs -/

def noted (I : Interpreter ν) (calls : Finset OpId) (s₀ : ExecutionSession ν)
    (as : List SessionAction) (t : ExecutionSession ν) : Prop :=
  ∃ L : Ledger ν, Serial I calls s₀ L t ∧ L.order = s₀.acquired I as ∧
    L.commands s₀.codeOf = s₀.executions I as

lemma Quiet.serial (h : Quiet calls s) : Serial I calls s ⟨[], [], [], s.runtime.space, []⟩ s := by
  refine ⟨h.toServing, h.lock, ⟨List.nodup_nil, ?_, ?_, ?_, ?_, h.rest⟩, rfl, ?_⟩
  · intro x hx
    cases hx
  · intro c hc
    obtain ⟨code, timeout, hk⟩ := h.scheduled c hc
    have hcode : s.codeOf c = code := by simp [codeOf, hk]
    rw [hcode]
    exact ⟨timeout, .scheduled, hk⟩
  · intro x hx
    cases hx
  · intro c hc _
    obtain ⟨code, timeout, hk⟩ := h.scheduled c hc
    exact phaseOf_eq hk
  · rw [h.requests, h.responses]
    exact .free

lemma noted_run {as : List SessionAction} (hs : s.Quiet calls) (h : exec (step I) s as = some t)
    (hup : Along (step I) (fun _ _ u => u.runtime.up = true) s as) : noted I calls s as t := by
  apply hup.history (R := noted I calls s) _ ⟨_, hs.serial, rfl, rfl⟩ h
  intro as u a v hu hn hv ha
  obtain ⟨L, hL, ho, hc⟩ := hn
  obtain ⟨L', hL', ho', hc'⟩ := hL.step hv ha
  refine ⟨L', hL', ?_, ?_⟩
  · rw [ho', ho, acquired, acquired, trace_concat hu hv]
  · rw [hc', hc, executions, executions, trace_concat hu hv]

structure Serialised (I : Interpreter ν) (calls : Finset OpId) (s : ExecutionSession ν)
    (as : List SessionAction) (t : ExecutionSession ν) : Prop where
  once : (s.acquired I as).Nodup
  members : ∀ c ∈ s.acquired I as, c ∈ calls
  replies : ∃ n outs, s.executions I as =
      ((s.acquired I as).take n).map (fun c => .execute c (s.codeOf c)) ∧
    I.sequence s.runtime.space (((s.acquired I as).take n).map s.codeOf) =
      some (t.runtime.space, outs) ∧
    ∀ c ∈ calls, t.isEnded c = true →
      ∃ o, t.outcomeOf c = some o ∧ (c, o) ∈ ((s.acquired I as).take n).zip outs
  complete : (∀ c ∈ calls, t.isEnded c = true) → (∀ c ∈ calls, c ∈ s.acquired I as) ∧
    s.executions I as = (s.acquired I as).map (fun c => .execute c (s.codeOf c)) ∧
    (∃ outs, I.sequence s.runtime.space ((s.acquired I as).map s.codeOf) =
      some (t.runtime.space, outs) ∧ (s.acquired I as).map t.outcomeOf = outs.map some) ∧ t.Quiet ∅

lemma Serial.over (h : Serial I calls s₀ L t) (hc : c ∈ calls) (he : t.isEnded c = true) :
    ∃ m, (c, m) ∈ L.done ∧ t.outcomeOf c = some m.outcome := by
  obtain ⟨timeout, p, hk⟩ := h.placed.kinds c hc
  have hp : p.ended = true := by
    rw [isEnded, phaseOf_eq hk] at he
    exact he
  have hin : c ∈ L.places.map Prod.fst := by
    by_contra hout
    have hx := h.placed.fresh c hc hout
    rw [phaseOf_eq hk] at hx
    obtain rfl := Option.some_inj.mp hx
    cases hp
  obtain ⟨⟨d, q⟩, hx, rfl⟩ := List.mem_map.mp hin
  have hq := h.placed.placed _ hx
  rw [phaseOf_eq hk] at hq
  obtain rfl : p = q := Option.some_inj.mp hq
  rcases Ledger.mem_places.mp hx with ⟨⟨e, m⟩, hy, he⟩ | hx | ⟨e, -, he⟩
  · cases he
    refine ⟨m, hy, ?_⟩
    rw [outcomeOf, phaseOf_eq hk]
    rfl
  · rw [Phase.not_ended_of_talks (h.holding.talks hx).1] at hp
    cases hp
  · cases he
    cases hp

lemma Serial.unfinished (h : Serial I calls s₀ L t) {x : OpId × Phase} (hx : x ∈ L.places)
    (hp : x.2.ended = false) : x.1 ∈ calls ∧ t.isEnded x.1 = false := by
  refine ⟨h.placed.subset x hx, ?_⟩
  rw [isEnded, h.placed.placed x hx]
  exact hp

lemma Serial.quiet (h : Serial I calls s₀ L t) (hall : ∀ c ∈ calls, t.isEnded c = true) :
    L.holder = [] ∧ t.Quiet ∅ := by
  have hnone : ∀ x ∈ L.places, x.2.ended = true := by
    intro x hx
    by_contra he
    obtain ⟨hc, hce⟩ := h.unfinished hx (by simpa using he)
    rw [hall x.1 hc] at hce
    cases hce
  have hfree : L.holder = [] := by
    rcases h.holding.holder_cases with hl | ⟨c, p, hl, hp⟩
    · exact hl
    · have he := hnone (c, p) (Ledger.mem_places.mpr (Or.inr (Or.inl (by simp [hl]))))
      rw [Phase.not_ended_of_talks hp] at he
      cases he
  have hwait : L.waiting = [] := by
    apply List.eq_nil_iff_forall_not_mem.mpr
    intro c hc
    cases hnone (c, .waiting) (Ledger.mem_places.mpr (Or.inr (Or.inr ⟨c, hc, rfl⟩)))
  have hh := h.holding
  rw [hfree] at hh
  obtain ⟨hreq, hres, -, -⟩ := hh.free_cases
  have hlock : t.lock = [] := by rw [h.lock, hfree, hwait, List.map_nil, List.append_nil]
  refine ⟨hfree, h.toServing, hreq, hres, hlock, by simp, ?_⟩
  intro c _ k p hk
  by_cases hc : c ∈ calls
  · obtain ⟨m, -, ho⟩ := h.over hc (hall c hc)
    rw [outcomeOf, phaseOf_eq hk] at ho
    cases p <;> first | exact ⟨rfl, rfl⟩ | cases ho
  · exact h.placed.rest c hc k p hk

lemma Serial.serialised {as : List SessionAction} (h : Serial I calls s L t)
    (ho : L.order = s.acquired I as) (hc : L.commands s.codeOf = s.executions I as) :
    s.Serialised I calls as t := by
  have hn := h.placed.nodup
  rw [Ledger.ids_places] at hn
  have hdone : (L.done.map Prod.fst).zip (L.done.map fun x => x.2.outcome) =
      L.done.map fun x => (x.1, x.2.outcome) := List.zip_map'
  have hmem : ∀ {c m}, (c, m) ∈ L.done → (c, m.outcome) ∈ L.done.map fun x => (x.1, x.2.outcome) :=
    fun hx => List.mem_map.mpr ⟨_, hx, rfl⟩
  constructor
  case once =>
    rw [← ho]
    exact hn.of_append_left
  case members =>
    intro c hc
    rw [← ho] at hc
    have hin : c ∈ L.places.map Prod.fst := by
      rw [Ledger.ids_places]
      exact List.mem_append_left _ hc
    obtain ⟨x, hx, rfl⟩ := List.mem_map.mp hin
    exact h.placed.subset x hx
  case replies =>
    rw [← ho, ← hc]
    rcases h.holding.ran_cases with ⟨hran, hspace⟩ | ⟨c, p, m, hl, hran, hm⟩
    · have htake : L.order.take L.done.length = L.done.map Prod.fst := by
        rw [Ledger.order, List.take_left' (by rw [List.length_map])]
      refine ⟨L.done.length, L.done.map fun x => x.2.outcome, ?_, ?_, ?_⟩
      · rw [htake, Ledger.commands, hran, List.append_nil, List.map_map]
        rfl
      · rw [htake, List.map_map, hspace]
        exact h.sequence
      · intro c hc he
        obtain ⟨m, hx, hout⟩ := h.over hc he
        refine ⟨m.outcome, hout, ?_⟩
        rw [htake, hdone]
        exact hmem hx
    · have htake : L.order.take (L.done.length + 1) = L.done.map Prod.fst ++ [c] := by
        rw [Ledger.order, hl]
        apply List.take_of_length_le
        simp
      refine ⟨L.done.length + 1, (L.done.map fun x => x.2.outcome) ++ [m.outcome], ?_, ?_, ?_⟩
      · rw [htake, Ledger.commands, hran, List.map_append, List.map_map]
        rfl
      · rw [htake, List.map_append, List.map_map]
        exact Interpreter.sequence_concat h.sequence hm
      · intro d hd he
        obtain ⟨m', hx, hout⟩ := h.over hd he
        refine ⟨m'.outcome, hout, ?_⟩
        rw [htake, List.zip_append (by simp), hdone]
        exact List.mem_append_left _ (hmem hx)
  case complete =>
    intro hall
    obtain ⟨hfree, hquiet⟩ := h.quiet hall
    have hrest := h.holding
    rw [hfree] at hrest
    obtain ⟨-, -, hran, hspace⟩ := hrest.free_cases
    have horder : L.order = L.done.map Prod.fst := by
      rw [Ledger.order, hfree, List.map_nil, List.append_nil]
    rw [← ho, ← hc, horder]
    refine ⟨?_, ?_, ⟨L.done.map fun x => x.2.outcome, ?_, ?_⟩, hquiet⟩
    · intro c hcc
      obtain ⟨m, hx, -⟩ := h.over hcc (hall c hcc)
      exact List.mem_map_of_mem hx
    · rw [Ledger.commands, hran, List.append_nil, List.map_map]
      rfl
    · rw [List.map_map, hspace]
      exact h.sequence
    · rw [List.map_map, List.map_map]
      apply List.map_congr_left
      intro x hx
      have hp := h.placed.placed _ (Ledger.mem_places.mpr (Or.inl ⟨x, hx, rfl⟩))
      simp only [Function.comp_apply, outcomeOf, hp]
      rfl

/-! ## The calls can all return -/

def weight (calls : Finset OpId) (s : ExecutionSession ν) : ℕ :=
  ∑ c ∈ calls, ((s.phaseOf c).elim 0 Phase.weight) + s.runtime.pipe.requests.length

lemma weight_update (hk : s.ops c = some ⟨k, p⟩) (hc : c ∈ calls)
    (ho : t.ops = Function.update s.ops c (some ⟨k, q⟩))
    (hw : q.weight + t.runtime.pipe.requests.length < p.weight + s.runtime.pipe.requests.length) :
    t.weight calls < s.weight calls := by
  have hself : t.phaseOf c = some q := phaseOf_eq (by rw [ho, Function.update_self])
  have hrest : ∑ d ∈ calls.erase c, (t.phaseOf d).elim 0 Phase.weight =
      ∑ d ∈ calls.erase c, (s.phaseOf d).elim 0 Phase.weight := by
    apply Finset.sum_congr rfl
    intro d hd
    rw [phaseOf, phaseOf, ho, Function.update_of_ne (Finset.ne_of_mem_erase hd)]
  rw [weight, weight, ← Finset.add_sum_erase _ _ hc, ← Finset.add_sum_erase calls _ hc, hrest, hself,
    phaseOf_eq hk]
  simp only [Option.elim_some]
  omega

def Nearer (I : Interpreter ν) (calls : Finset OpId) (s : ExecutionSession ν) : Prop :=
  ∃ a t, s.step I a = some t ∧ t.runtime.up = true ∧ t.weight calls < s.weight calls

lemma Serial.op (h : Serial I calls s₀ L s) {x : OpId × Phase} (hx : x ∈ L.places) :
    x.1 ∈ calls ∧ ∃ timeout, s.ops x.1 = some ⟨.executeCell (s₀.codeOf x.1) timeout, x.2⟩ := by
  have hc := h.placed.subset x hx
  obtain ⟨timeout, p, hk⟩ := h.placed.kinds x.1 hc
  have hp := h.placed.placed x hx
  rw [phaseOf_eq hk] at hp
  obtain rfl := Option.some_inj.mp hp
  exact ⟨hc, timeout, hk⟩

lemma Serial.nearer_free (h : Serial I calls s₀ L s) (hl : L.holder = [])
    (hne : ∃ c ∈ calls, s.isEnded c = false) : Nearer I calls s := by
  have hlock := h.lock
  rw [hl, List.map_nil, List.nil_append] at hlock
  cases hw : L.waiting with
  | cons c waiting =>
    have hx : (c, .waiting) ∈ L.places := Ledger.mem_places.mpr (Or.inr (Or.inr ⟨c, by simp [hw], rfl⟩))
    obtain ⟨hc, timeout, hk⟩ := h.op hx
    refine ⟨.grant c .up, s.setPhase c (.sending s.runtime.generation), ?_, h.up,
      weight_update hk hc (setPhase_ops hk) (by simp [Phase.weight, setPhase])⟩
    simp [ExecutionSession.step, hk, hlock, hw, resumeLocked, callRuntime, h.running]
  | nil =>
    obtain ⟨c, hc, he⟩ := hne
    obtain ⟨timeout, p, hk⟩ := h.placed.kinds c hc
    rw [isEnded, phaseOf_eq hk] at he
    have hp : p = .scheduled := by
      obtain ⟨-, -, hx | ⟨-, rfl⟩⟩ := h.placed.call hk (Or.inl he)
      · rcases Ledger.mem_places.mp hx with ⟨y, -, hy⟩ | hx | ⟨d, hd, -⟩
        · cases hy
          cases he
        · rw [hl] at hx
          cases hx
        · rw [hw] at hd
          cases hd
      · rfl
    subst hp
    rw [hw] at hlock
    refine ⟨.begin c .up, ({ s with lock := [c] } : ExecutionSession ν).setPhase c
      (.sending s.runtime.generation), ?_, h.up,
      weight_update hk hc (setPhase_ops (s := { s with lock := [c] }) hk)
        (by simp [Phase.weight, setPhase])⟩
    simp [ExecutionSession.step, hk, run, executeCell, h.status, h.running, enterLock, hlock,
      callRuntime]

lemma Serial.nearer_work (h : Serial I calls s₀ L s) (hk : s.ops c = some ⟨k, p⟩) (hc : c ∈ calls)
    (hreq : s.runtime.pipe.requests = [.execute c (s₀.codeOf c)])
    (hcode : I.cell (s₀.codeOf c) s.runtime.space ≠ none) : Nearer I calls s := by
  obtain ⟨x, hx⟩ := Option.ne_none_iff_exists'.mp hcode
  obtain ⟨r, hr, hup, hpipe⟩ : ∃ r, s.runtime.work I quietMachine = some r ∧ r.up = true ∧
      r.pipe.requests = [] := by
    rw [PythonRuntime.work, if_pos ⟨h.alive, h.opened⟩]
    simp only [hreq, serveCommand_execute, hx, Option.map_some]
    refine ⟨_, rfl, h.up, ?_⟩
    rw [PythonRuntime.setPipe_self (r := { s.runtime with space := x.1 })]
    rfl
  refine ⟨.work quietMachine, s.withRuntime r, ?_, hup, weight_update (q := p) hk hc ?_ ?_⟩
  · rw [ExecutionSession.step, hr]
    rfl
  · exact (Function.update_eq_self_iff.mpr hk.symm).symm
  · rw [withRuntime_runtime, hpipe, hreq]
    simp

lemma Serial.nearer_held (h : Serial I calls s₀ L s) (hl : L.holder = [(c, p)])
    (hcode : ∀ c ∈ calls, ∀ space, I.cell (s₀.codeOf c) space ≠ none) : Nearer I calls s := by
  have hx : (c, p) ∈ L.places := Ledger.mem_places.mpr (Or.inr (Or.inl (by simp [hl])))
  obtain ⟨hc, timeout, hk⟩ := h.op hx
  have hh := h.holding
  rw [hl] at hh
  rcases hh.held_cases with ⟨rfl, hreq⟩ | ⟨hreq, -⟩ | ⟨⟨m, hres⟩, hp⟩
  · obtain ⟨r, hr, hsame, hpipe⟩ := send_first hk h.opened
    refine ⟨.send c, (s.withRuntime r).setPhase c .polling, hr, hsame.up.trans h.up,
      weight_update hk hc (setPhase_ops (s := s.withRuntime r) hk) ?_⟩
    change 4 + r.pipe.requests.length < 6 + s.runtime.pipe.requests.length
    simp [hpipe, Pipe.send, hreq]
  · exact h.nearer_work hk hc hreq (hcode c hc _)
  · rcases hp with rfl | rfl | rfl | rfl
    · refine ⟨.check c, s.setPhase c (.probing s.runtime.generation), ?_, h.up,
        weight_update hk hc (setPhase_ops hk) (by simp [Phase.weight, setPhase])⟩
      simp [ExecutionSession.step, ExecutionSession.check, hk, h.alive]
    · have hopen : (s.runtime.pipes s.runtime.generation).opened = true := h.opened
      have hres' : (s.runtime.pipes s.runtime.generation).responses = [m] := hres
      refine ⟨.probe c, s.setPhase c .ready, ?_, h.up,
        weight_update hk hc (setPhase_ops hk) (by simp [Phase.weight, setPhase])⟩
      simp [ExecutionSession.step, ExecutionSession.probe, hk, hopen, hres']
    · refine ⟨.fetch c, s.setPhase c (.receiving s.runtime.generation), ?_, h.up,
        weight_update hk hc (setPhase_ops hk) (by simp [Phase.weight, setPhase])⟩
      simp [ExecutionSession.step, ExecutionSession.fetch, hk]
    · obtain ⟨r, hr, hsame, hreq', -⟩ := recv_last hk h.opened hres
      refine ⟨.recv c, (s.withRuntime r).leave c (.returned m), hr, hsame.up.trans h.up,
        weight_update hk hc (leave_ops (s := s.withRuntime r) hk) ?_⟩
      change 0 + r.pipe.requests.length < 1 + s.runtime.pipe.requests.length
      rw [hreq']
      omega

lemma Serial.nearer (h : Serial I calls s₀ L s)
    (hcode : ∀ c ∈ calls, ∀ space, I.cell (s₀.codeOf c) space ≠ none)
    (hne : ∃ c ∈ calls, s.isEnded c = false) : Nearer I calls s := by
  rcases h.holding.holder_cases with hl | ⟨c, p, hl, -⟩
  · exact h.nearer_free hl hne
  · exact h.nearer_held hl hcode

def CanReturn (I : Interpreter ν) (calls : Finset OpId) (s : ExecutionSession ν) : Prop :=
  ∃ as t, exec (step I) s as = some t ∧ Along (step I) (fun _ _ u => u.runtime.up = true) s as ∧
    ∀ c ∈ calls, t.isEnded c = true

lemma Serial.canReturn (h : Serial I calls s₀ L s)
    (hcode : ∀ c ∈ calls, ∀ space, I.cell (s₀.codeOf c) space ≠ none) : CanReturn I calls s := by
  induction hw : s.weight calls using Nat.strong_induction_on generalizing s L with
  | h w ih =>
    by_cases hne : ∃ c ∈ calls, s.isEnded c = false
    · obtain ⟨a, t, ht, hup, hlt⟩ := h.nearer hcode hne
      obtain ⟨L', hL', -, -⟩ := h.step ht hup
      rw [hw] at hlt
      obtain ⟨as, u, hu, hal, hend⟩ := ih _ hlt hL' rfl
      refine ⟨a :: as, u, (exec_cons ht).trans hu, ?_, hend⟩
      rw [along_cons]
      intro t' ht'
      obtain rfl : t = t' := Option.some_inj.mp (ht.symm.trans ht')
      exact ⟨hup, hal⟩
    · refine ⟨[], s, rfl, trivial, ?_⟩
      intro c hc
      by_contra he
      exact hne ⟨c, hc, by simpa using he⟩

theorem cells_serialisable (I : Interpreter ν) (calls : Finset OpId) (s t : ExecutionSession ν)
    (as : List SessionAction) (hs : s.Quiet calls) (h : exec (step I) s as = some t)
    (hup : Along (step I) (fun _ _ u => u.runtime.up = true) s as) :
    s.Serialised I calls as t ∧
      ((∀ c ∈ calls, ∀ space, I.cell (s.codeOf c) space ≠ none) → CanReturn I calls t) := by
  obtain ⟨L, hL, ho, hc⟩ := noted_run hs h hup
  exact ⟨hL.serialised ho hc, hL.canReturn⟩

/-! Two cells of a new session, of which the one that was called second is the first to run. -/

def raced : ExecutionSession (List String) :=
  ((created echo "session" "runtime").schedule 0 (.executeCell "x = 1" "30.0")).schedule 1
    (.executeCell "print(x)" "30.0")

def race : List SessionAction :=
  [.begin 1 .up, .begin 0 .up, .send 1, .check 1, .probe 1, .work quietMachine, .check 1, .probe 1,
    .fetch 1, .recv 1, .grant 0 .up, .send 0, .work quietMachine, .check 0, .probe 0, .fetch 0, .recv 0]

lemma raced_quiet : raced.Quiet {1, 0} :=
  ((created_quiet echo "session" "runtime").schedule rfl "x = 1" "30.0").schedule rfl "print(x)" "30.0"

theorem race_serialisable : ∃ t, exec (step echo) raced race = some t ∧
    raced.Serialised echo {1, 0} race t ∧ raced.acquired echo race = [1, 0] ∧
    t.runtime.space = ["print(x)", "x = 1"] :=
  ⟨_, rfl, (cells_serialisable echo {1, 0} raced _ race raced_quiet rfl (by decide)).1, rfl, rfl⟩

end ExecutionSession

end NotebookExecution.Execution
