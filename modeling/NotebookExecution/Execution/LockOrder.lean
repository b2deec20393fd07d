import NotebookExecution.Execution.Ledger

/-! Each step of a session whose worker stays up extends the ledger of its calls. -/

namespace NotebookExecution.Execution

variable {ν : Type} {I : Interpreter ν}

namespace ExecutionSession

variable {s s₀ t : ExecutionSession ν} {c d : OpId} {a : SessionAction} {calls : Finset OpId}
  {L : Ledger ν} {k : Kind} {p q : Phase}

/-! ## Entries -/

lemma Serial.held (h : Serial I calls s₀ L s) (hk : s.ops c = some ⟨k, p⟩)
    (hp : p.inside = true ∨ p.stray = true) :
    p.talks = true ∧ (∃ timeout, k = .executeCell (s₀.codeOf c) timeout) ∧ L.holder = [(c, p)] := by
  have he : p.ended = false ∨ p.stray = true := by
    cases p <;> simp [Phase.inside, Phase.stray, Phase.ended] at hp ⊢
  obtain ⟨-, hkind, hx⟩ := h.placed.call hk he
  have hx' : (c, p) ∈ L.holder := by
    rcases hx with hx | ⟨-, rfl⟩
    · rcases Ledger.mem_places.mp hx with ⟨y, -, hy⟩ | hx | ⟨d, -, hd⟩
      · cases hy
        simp [Phase.inside, Phase.stray] at hp
      · exact hx
      · cases hd
        simp [Phase.inside, Phase.stray] at hp
    · simp [Phase.inside, Phase.stray] at hp
  obtain ⟨ht, hl⟩ := h.holding.talks hx'
  exact ⟨ht, hkind, hl⟩

lemma Serial.turn {ran : List Command} (h : Serial I calls s₀ L s) (hk : s.ops c = some ⟨k, p⟩)
    (hl : L.holder = [(c, p)]) (ho : t.ops = Function.update s.ops c (some ⟨k, q⟩))
    (hlock : t.lock = s.lock) (hs : t.Serving)
    (hh : Holding I t.runtime.generation s₀.codeOf L.before [(c, q)] t.runtime.pipe.requests
      t.runtime.pipe.responses ran t.runtime.space) :
    Serial I calls s₀ { L with holder := [(c, q)], ran := ran } t := by
  have hlock' : t.lock = [c] ++ L.waiting := by
    rw [hlock, h.lock, hl]
    rfl
  have hin : (c, p) ∈ L.places := by simp [Ledger.mem_places, hl]
  have hids : ({ L with holder := [(c, q)], ran := ran } : Ledger ν).places.map Prod.fst =
      L.places.map Prod.fst := by
    rw [Ledger.ids_places, Ledger.ids_places, hl]
    rfl
  refine ⟨hs, hlock', h.placed.update hk (h.placed.subset _ hin) ho ?_ ?_ ?_ ?_, h.sequence, hh⟩
  · rw [hids]
    exact h.placed.nodup
  · simp [Ledger.mem_places]
  · intro x hx
    rw [Ledger.mem_places] at hx ⊢
    rcases hx with hx | hx | hx
    · exact Or.inr (Or.inl hx)
    · exact Or.inl (List.mem_singleton.mp hx)
    · exact Or.inr (Or.inr (Or.inr hx))
  · intro x hx
    rw [hids]
    exact List.mem_map_of_mem hx

lemma Serial.acquire {waiting : List OpId} (h : Serial I calls s₀ L s)
    (hk : s.ops c = some ⟨k, p⟩) (hc : c ∈ calls) (hl : L.holder = [])
    (ho : t.ops = Function.update s.ops c (some ⟨k, .sending s.runtime.generation⟩))
    (hr : t.runtime = s.runtime) (hs : t.status = s.status)
    (hlock : t.lock = c :: waiting)
    (hw : L.waiting = c :: waiting ∨ L.waiting = [] ∧ waiting = [] ∧ c ∉ L.places.map Prod.fst) :
    Serial I calls s₀ { L with holder := [(c, .sending s.runtime.generation)], waiting := waiting } t := by
  have hh := h.holding
  rw [hl] at hh
  obtain ⟨hreq, hres, hran, hspace⟩ := hh.free_cases
  have hserve : t.Serving := ⟨hs.trans h.status, hr ▸ h.running, hr ▸ h.alive, hr ▸ h.opened⟩
  have hn := h.placed.nodup
  rw [Ledger.ids_places, hl, List.map_nil, List.append_nil] at hn
  refine ⟨hserve, hlock, h.placed.update hk hc ho ?_ ?_ ?_ ?_, h.sequence, ?_⟩
  · rw [Ledger.ids_places]
    rcases hw with hw | ⟨hw, rfl, hout⟩
    · rw [hw] at hn
      simpa using hn
    · rw [hw, List.append_nil] at hn
      have hout' : c ∉ L.done.map Prod.fst := by
        rwa [Ledger.ids_places, hl, hw, List.map_nil, List.append_nil, List.append_nil] at hout
      rw [List.append_nil]
      exact hn.append (List.nodup_singleton c) (List.disjoint_singleton.mpr hout')
  · simp [Ledger.mem_places]
  · intro x hx
    rw [Ledger.mem_places] at hx ⊢
    rcases hx with hx | hx | ⟨d, hd, hx⟩
    · exact Or.inr (Or.inl hx)
    · exact Or.inl (List.mem_singleton.mp hx)
    · rcases hw with hw | ⟨hw, rfl, -⟩
      · exact Or.inr (Or.inr (Or.inr ⟨d, by simp [hw, hd], hx⟩))
      · cases hd
  · intro x hx
    have hx' : x.1 ∈ L.places.map Prod.fst := List.mem_map_of_mem hx
    rw [Ledger.ids_places, hl] at hx'
    rw [Ledger.ids_places]
    rcases hw with hw | ⟨hw, rfl, -⟩
    · simpa [hw] using hx'
    · rw [hw] at hx'
      simp only [List.map_nil, List.append_nil] at hx'
      exact List.mem_append_left _ (List.mem_append_left _ hx')
  · rw [hr, hreq, hres, hran, hspace]
    exact .unsent c

lemma Serial.queue (h : Serial I calls s₀ L s) (hk : s.ops c = some ⟨k, p⟩) (hc : c ∈ calls)
    (ho : t.ops = Function.update s.ops c (some ⟨k, .waiting⟩)) (hr : t.runtime = s.runtime)
    (hs : t.status = s.status) (hlock : t.lock = s.lock ++ [c]) (hout : c ∉ L.places.map Prod.fst) :
    Serial I calls s₀ { L with waiting := L.waiting ++ [c] } t := by
  have hserve : t.Serving := ⟨hs.trans h.status, hr ▸ h.running, hr ▸ h.alive, hr ▸ h.opened⟩
  have hlock' : t.lock = L.holder.map Prod.fst ++ (L.waiting ++ [c]) := by
    rw [hlock, h.lock, List.append_assoc]
  have hids : ({ L with waiting := L.waiting ++ [c] } : Ledger ν).places.map Prod.fst =
      L.places.map Prod.fst ++ [c] := by
    rw [Ledger.ids_places, Ledger.ids_places, List.append_assoc _ _ [c]]
  refine ⟨hserve, hlock', h.placed.update hk hc ho ?_ ?_ ?_ ?_, h.sequence, hr ▸ h.holding⟩
  · rw [hids]
    exact h.placed.nodup.append (List.nodup_singleton c) (List.disjoint_singleton.mpr hout)
  · simp [Ledger.mem_places]
  · intro x hx
    rw [Ledger.mem_places] at hx ⊢
    rcases hx with hx | hx | ⟨d, hd, hx⟩
    · exact Or.inr (Or.inl hx)
    · exact Or.inr (Or.inr (Or.inl hx))
    · rcases List.mem_append.mp hd with hd | hd
      · exact Or.inr (Or.inr (Or.inr ⟨d, hd, hx⟩))
      · obtain rfl := List.mem_singleton.mp hd
        exact Or.inl hx.symm
  · intro x hx
    rw [hids]
    exact List.mem_append_left _ (List.mem_map_of_mem hx)

lemma Serial.finish {m : Message} {next : ν} (h : Serial I calls s₀ L s) (hk : s.ops c = some ⟨k, p⟩)
    (hl : L.holder = [(c, p)]) (ho : t.ops = Function.update s.ops c (some ⟨k, .returned m⟩))
    (hlock : t.lock = s.lock.erase c) (hs : t.Serving) (hreq : t.runtime.pipe.requests = [])
    (hres : t.runtime.pipe.responses = []) (hspace : t.runtime.space = next)
    (hm : I.cell (s₀.codeOf c) L.before = some (next, m.outcome)) :
    Serial I calls s₀ ⟨L.done ++ [(c, m)], [], L.waiting, next, []⟩ t := by
  have hlock' : t.lock = L.waiting := by
    rw [hlock, h.lock, hl]
    simp
  have hin : (c, p) ∈ L.places := by simp [Ledger.mem_places, hl]
  have hids : (⟨L.done ++ [(c, m)], [], L.waiting, next, []⟩ : Ledger ν).places.map Prod.fst =
      L.places.map Prod.fst := by
    simp [Ledger.ids_places, hl]
  refine ⟨hs, hlock', h.placed.update hk (h.placed.subset _ hin) ho ?_ ?_ ?_ ?_, ?_, ?_⟩
  · rw [hids]
    exact h.placed.nodup
  · simp [Ledger.mem_places]
  · intro x hx
    rw [Ledger.mem_places] at hx ⊢
    rcases hx with ⟨y, hy, hx⟩ | hx | hx
    · rcases List.mem_append.mp hy with hy | hy
      · exact Or.inr (Or.inl ⟨y, hy, hx⟩)
      · obtain rfl := List.mem_singleton.mp hy
        exact Or.inl hx.symm
    · cases hx
    · exact Or.inr (Or.inr (Or.inr hx))
  · intro x hx
    rw [hids]
    exact List.mem_map_of_mem hx
  · rw [List.map_append, List.map_append]
    exact Interpreter.sequence_concat h.sequence hm
  · rw [hreq, hres, hspace]
    exact .free

structure Alike (r r' : PythonRuntime ν) : Prop where
  running : r'.isAlive = r.isAlive
  alive : r'.alive = r.alive
  generation : r'.generation = r.generation
  space : r'.space = r.space
  opened : r'.pipe.opened = r.pipe.opened

lemma Alike.up {r r' : PythonRuntime ν} (h : Alike r r') : r'.up = r.up := by
  rw [PythonRuntime.up, PythonRuntime.up, h.running, h.alive]

lemma setPipe_alike (r : PythonRuntime ν) {pipe : Pipe} (h : pipe.opened = r.pipe.opened) :
    Alike r (r.setPipe r.generation pipe) where
  running := rfl
  alive := rfl
  generation := rfl
  space := rfl
  opened := by rw [PythonRuntime.setPipe_self, h]

lemma send_first (hk : s.ops c = some ⟨k, .sending s.runtime.generation⟩)
    (hopen : s.runtime.pipe.opened = true) :
    ∃ r, s.send c = some ((s.withRuntime r).setPhase c .polling) ∧ Alike s.runtime r ∧
      r.pipe = s.runtime.pipe.send (k.command c) := by
  refine ⟨s.runtime.setPipe s.runtime.generation (s.runtime.pipe.send (k.command c)), ?_,
    setPipe_alike _ rfl, PythonRuntime.setPipe_self ..⟩
  have hopen' : (s.runtime.pipes s.runtime.generation).opened = true := hopen
  simp only [ExecutionSession.send, hk, hopen', if_true]
  rfl

lemma recv_last {m : Message} (hk : s.ops c = some ⟨k, .receiving s.runtime.generation⟩)
    (hopen : s.runtime.pipe.opened = true) (hres : s.runtime.pipe.responses = [m]) :
    ∃ r, s.recv c = some ((s.withRuntime r).leave c (.returned m)) ∧ Alike s.runtime r ∧
      r.pipe.requests = s.runtime.pipe.requests ∧ r.pipe.responses = [] := by
  obtain ⟨pipe, hrecv, hpipe⟩ : ∃ pipe, s.runtime.pipe.recv = some (m, pipe) ∧
      pipe.opened = s.runtime.pipe.opened ∧ pipe.requests = s.runtime.pipe.requests ∧
      pipe.responses = [] := by
    rw [Pipe.recv, hres]
    exact ⟨_, rfl, rfl, rfl, rfl⟩
  refine ⟨s.runtime.setPipe s.runtime.generation pipe, ?_, setPipe_alike _ hpipe.1, ?_, ?_⟩
  · have hopen' : (s.runtime.pipes s.runtime.generation).opened = true := hopen
    have hrecv' : (s.runtime.pipes s.runtime.generation).recv = some (m, pipe) := hrecv
    simp only [ExecutionSession.recv, hk, hopen', Bool.not_true, Bool.false_eq_true, if_false, hrecv']
  · rw [PythonRuntime.setPipe_self]
    exact hpipe.2.1
  · rw [PythonRuntime.setPipe_self]
    exact hpipe.2.2

lemma Serving.alike {r : PythonRuntime ν} (h : s.Serving) (hr : Alike s.runtime r)
    (hst : t.status = s.status) (ht : t.runtime = r) : t.Serving := by
  subst ht
  exact ⟨hst.trans h.status, hr.running.trans h.running, hr.alive.trans h.alive,
    hr.opened.trans h.opened⟩

/-! ## Steps -/

def Follows (I : Interpreter ν) (calls : Finset OpId) (s₀ : ExecutionSession ν) (L : Ledger ν)
    (s : ExecutionSession ν) (a : SessionAction) (t : ExecutionSession ν) : Prop :=
  ∃ L' : Ledger ν, Serial I calls s₀ L' t ∧ L'.order = L.order ++ (s.acquires a).toList ∧
    L'.commands s₀.codeOf = L.commands s₀.codeOf ++ (s.executes a).toList

variable {spawn : Spawn} {machine : Machine}

lemma Serial.scheduled (h : Serial I calls s₀ L s) (hk : s.ops c = some ⟨k, .scheduled⟩) :
    c ∈ calls ∧ (∃ timeout, k = .executeCell (s₀.codeOf c) timeout) ∧ c ∉ L.places.map Prod.fst := by
  obtain ⟨hc, hkind, hx⟩ := h.placed.call hk (Or.inl rfl)
  refine ⟨hc, hkind, ?_⟩
  rcases hx with hx | ⟨hx, -⟩
  · rcases Ledger.mem_places.mp hx with ⟨y, -, hy⟩ | hx | ⟨d, -, hd⟩
    · cases hy
    · cases (h.holding.talks hx).1
    · cases hd
  · exact hx

lemma Serial.begin (h : Serial I calls s₀ L s) (ht : s.step I (.begin c spawn) = some t) :
    Follows I calls s₀ L s (.begin c spawn) t := by
  simp only [step] at ht
  split at ht
  · next k hk =>
    obtain ⟨hc, ⟨timeout, rfl⟩, hout⟩ := h.scheduled hk
    obtain rfl : s.run I c spawn (.executeCell (s₀.codeOf c) timeout) = t := Option.some_inj.mp ht
    simp only [run, executeCell, h.status, h.running, ne_eq, not_true_eq_false, if_false,
      Bool.not_true, Bool.false_eq_true]
    rw [enterLock]
    by_cases hl : s.lock = []
    · have hh : L.holder = [] ∧ L.waiting = [] := by
        have hlock := h.lock
        rw [hl] at hlock
        simpa using hlock.symm
      rw [if_pos hl, callRuntime, if_pos h.running]
      refine ⟨_, h.acquire hk hc hh.1 (setPhase_ops hk) rfl rfl rfl
        (Or.inr ⟨hh.2, rfl, hout⟩), ?_, ?_⟩
      · simp [Ledger.order, acquires, hl, hh.1]
      · simp [Ledger.commands, executes]
    · rw [if_neg hl]
      refine ⟨_, h.queue hk hc (setPhase_ops hk) rfl rfl rfl hout, ?_, ?_⟩
      · simp [Ledger.order, acquires, hl]
      · simp [Ledger.commands, executes]
  · cases ht

lemma Serial.grant (h : Serial I calls s₀ L s) (ht : s.step I (.grant c spawn) = some t) :
    Follows I calls s₀ L s (.grant c spawn) t := by
  simp only [step] at ht
  split at ht
  · next k hk =>
    split at ht
    · next hl =>
      obtain ⟨hc, ⟨timeout, rfl⟩, -⟩ := h.placed.call hk (Or.inl rfl)
      obtain rfl : s.callRuntime c (.executeCell (s₀.codeOf c) timeout) = t := Option.some_inj.mp ht
      rw [callRuntime, if_pos h.running]
      have hh : L.holder = [] := by
        rcases h.holding.holder_cases with hh | ⟨d, p, hh, hp⟩
        · exact hh
        · rw [h.lock, hh] at hl
          obtain rfl : d = c := Option.some_inj.mp hl
          have hx := h.placed.placed (d, p) (Ledger.mem_places.mpr (Or.inr (Or.inl (by simp [hh]))))
          rw [phaseOf_eq hk] at hx
          obtain rfl := Option.some_inj.mp hx
          cases hp
      rw [h.lock, hh] at hl
      obtain ⟨waiting, hw⟩ : ∃ waiting, L.waiting = c :: waiting := List.head?_eq_some_iff.mp hl
      have hlock : (s.setPhase c (.sending s.runtime.generation)).lock = c :: waiting := by
        change s.lock = c :: waiting
        rw [h.lock, hh, hw]
        rfl
      refine ⟨_, h.acquire hk hc hh (setPhase_ops hk) rfl rfl hlock (Or.inl hw), ?_, ?_⟩
      · simp [Ledger.order, acquires, hh]
      · simp [Ledger.commands, executes]
    · cases ht
  · cases ht

lemma Serial.send (h : Serial I calls s₀ L s) (ht : s.step I (.send c) = some t) :
    Follows I calls s₀ L s (.send c) t := by
  have hstep : s.send c = some t := ht
  rw [ExecutionSession.send] at hstep
  split at hstep
  · next k g hk =>
    obtain ⟨-, ⟨timeout, rfl⟩, hl⟩ := h.held hk (Or.inl rfl)
    have hh := h.holding
    rw [hl] at hh
    obtain ⟨rfl, hreq, hres, hran, hspace⟩ := hh.sending
    obtain ⟨r, hr, hsame, hpipe⟩ := send_first hk h.opened
    obtain rfl := Option.some_inj.mp (hr.symm.trans ht)
    have hq : Holding I r.generation s₀.codeOf L.before [(c, .polling)] r.pipe.requests
        r.pipe.responses [] r.space := by
      rw [hsame.generation, hsame.space, hpipe, hspace]
      simp only [Pipe.send, hreq, hres]
      exact .queued c (Or.inl rfl)
    refine ⟨_, h.turn hk hl (setPhase_ops (s := s.withRuntime r) hk) rfl
      (h.alike hsame rfl rfl) hq, ?_, ?_⟩
    · simp [Ledger.order, acquires, hl]
    · simp [Ledger.commands, executes, hran]
  · next k g hk => cases (h.held hk (Or.inr rfl)).1
  · next k g hk => cases (h.held hk (Or.inl rfl)).1
  · cases hstep

lemma Serial.look (h : Serial I calls s₀ L s) (hk : s.ops c = some ⟨k, p⟩)
    (hp : p.inside = true ∨ p.stray = true) (ha : s.acquires a = none) (he : s.executes a = none)
    (hh : ∀ {reqs ress ran next},
      Holding I s.runtime.generation s₀.codeOf L.before [(c, p)] reqs ress ran next →
      reqs = s.runtime.pipe.requests → ress = s.runtime.pipe.responses →
      Holding I s.runtime.generation s₀.codeOf L.before [(c, q)] reqs ress ran next) :
    Follows I calls s₀ L s a (s.setPhase c q) := by
  obtain ⟨-, -, hl⟩ := h.held hk hp
  have hq := h.holding
  rw [hl] at hq
  have hserve : (s.setPhase c q).Serving := ⟨h.status, h.running, h.alive, h.opened⟩
  refine ⟨_, h.turn hk hl (setPhase_ops hk) rfl hserve (hh hq rfl rfl), ?_, ?_⟩
  · simp [Ledger.order, ha, hl]
  · simp [Ledger.commands, he]

lemma Serial.check (h : Serial I calls s₀ L s) (ht : s.step I (.check c) = some t) :
    Follows I calls s₀ L s (.check c) t := by
  simp only [step, ExecutionSession.check, h.alive, if_true] at ht
  split at ht
  · next k hk =>
    obtain rfl := Option.some_inj.mp ht
    exact h.look hk (Or.inl rfl) rfl rfl fun hq _ _ => hq.polling
  · cases ht

lemma Serial.probe (h : Serial I calls s₀ L s) (ht : s.step I (.probe c) = some t) :
    Follows I calls s₀ L s (.probe c) t := by
  simp only [step, ExecutionSession.probe] at ht
  split at ht
  · next k g hk =>
    have hg : g = s.runtime.generation := by
      have hq := h.holding
      rw [(h.held hk (Or.inl rfl)).2.2] at hq
      exact hq.probing.1
    subst hg
    have hopen : (s.runtime.pipes s.runtime.generation).opened = true := h.opened
    simp only [hopen, Bool.not_true, Bool.false_eq_true, if_false] at ht
    split at ht
    · next hr =>
      obtain rfl := Option.some_inj.mp ht
      exact h.look hk (Or.inl rfl) rfl rfl fun hq _ hres => hq.probing.2.1 (hres.trans hr)
    · next hr =>
      obtain rfl := Option.some_inj.mp ht
      exact h.look hk (Or.inl rfl) rfl rfl fun hq _ hres => hq.probing.2.2 fun he => hr (hres.symm.trans he)
  · cases ht

lemma Serial.fetch (h : Serial I calls s₀ L s) (ht : s.step I (.fetch c) = some t) :
    Follows I calls s₀ L s (.fetch c) t := by
  simp only [step, ExecutionSession.fetch] at ht
  split at ht
  · next k hk =>
    obtain rfl := Option.some_inj.mp ht
    exact h.look hk (Or.inl rfl) rfl rfl fun hq _ _ => hq.ready
  · cases ht

lemma Serial.recv (h : Serial I calls s₀ L s) (ht : s.step I (.recv c) = some t) :
    Follows I calls s₀ L s (.recv c) t := by
  have hstep : s.recv c = some t := ht
  rw [ExecutionSession.recv] at hstep
  split at hstep
  · next k g hk =>
    obtain ⟨-, -, hl⟩ := h.held hk (Or.inl rfl)
    have hh := h.holding
    rw [hl] at hh
    obtain ⟨rfl, hreq, hran, m, hres, hm⟩ := hh.receiving
    obtain ⟨r, hr, hsame, hreq', hres'⟩ := recv_last hk h.opened hres
    obtain rfl := Option.some_inj.mp (hr.symm.trans ht)
    refine ⟨_, h.finish hk hl (leave_ops (s := s.withRuntime r) hk) rfl (h.alike hsame rfl rfl)
      (hreq'.trans hreq) hres' hsame.space hm, ?_, ?_⟩
    · simp [Ledger.order, acquires, hl]
    · simp [Ledger.commands, executes, hran]
  · next k g hk => cases (h.held hk (Or.inr rfl)).1
  · cases hstep

lemma Serial.work (h : Serial I calls s₀ L s) (ht : s.step I (.work machine) = some t)
    (hlive : t.runtime.alive = true) : Follows I calls s₀ L s (.work machine) t := by
  obtain ⟨r, hr, rfl⟩ := Option.map_eq_some_iff.mp ht
  rw [PythonRuntime.work, if_pos ⟨h.alive, h.opened⟩] at hr
  have hh := h.holding
  split at hr
  · cases hr
  · next cmd rest hreq =>
    rw [hreq] at hh
    obtain ⟨c, p, hl, rfl, rfl, hres, hran, hspace, hp⟩ := hh.requests
    rw [serveCommand_execute, hspace] at hr
    have hin : (c, p) ∈ L.places := Ledger.mem_places.mpr (Or.inr (Or.inl (by simp [hl])))
    obtain ⟨⟨k, p'⟩, hk, rfl⟩ : ∃ o, s.ops c = some o ∧ o.phase = p :=
      Option.map_eq_some_iff.mp (h.placed.placed _ hin)
    cases hm : I.cell (s₀.codeOf c) L.before with
    | none =>
      simp only [hm, Option.map_none, Option.some_inj] at hr
      subst hr
      cases hlive
    | some x =>
      simp only [hm, Option.map_some, Option.some_inj] at hr
      have hpipe : r.pipe = s.runtime.pipe.answer
          (executed c machine x.2.status x.2.stdout x.2.stderr x.2.traceback) [] := by
        rw [← hr]
        exact PythonRuntime.setPipe_self (r := { s.runtime with space := x.1 }) _
      have hspace' : r.space = x.1 := by
        rw [← hr]
        rfl
      have hserve : (s.withRuntime r).Serving := by
        refine ⟨h.status, ?_, hlive, (congrArg Pipe.opened hpipe).trans h.opened⟩
        rw [← hr]
        exact h.running
      have hgen : r.generation = s.runtime.generation := by
        rw [← hr]
        rfl
      have hq : Holding I r.generation s₀.codeOf L.before [(c, p')] r.pipe.requests r.pipe.responses
          [.execute c (s₀.codeOf c)] r.space := by
        rw [hpipe, hspace', hgen]
        simp only [Pipe.answer, hres, List.nil_append]
        apply Holding.answered c
        · rcases hp with hp | hp
          · exact Or.inl hp
          · exact Or.inr (Or.inl hp)
        · exact hm
      refine ⟨_, h.turn (t := s.withRuntime r) hk hl (Function.update_eq_self_iff.mpr hk.symm).symm rfl hserve
        hq, ?_, ?_⟩
      · simp [Ledger.order, acquires, hl]
      · simp [Ledger.commands, executes, hran, hreq]

lemma Serial.expire (h : Serial I calls s₀ L s) (ht : s.step I (.expire c) = some t)
    (hup : t.runtime.up = true) : Follows I calls s₀ L s (.expire c) t := by
  simp only [step, ExecutionSession.expire] at ht
  split at ht
  · next pkgs hk =>
    obtain ⟨timeout, hkind⟩ := (h.held hk (Or.inl rfl)).2.1
    cases hkind
  · next k _ hk =>
    obtain rfl := Option.some_inj.mp ht
    rw [raise_runtime] at hup
    cases hup
  · cases ht

lemma Serial.joined (h : Serial I calls s₀ L s) (ht : s.step I (.joined c spawn) = some t) :
    Follows I calls s₀ L s (.joined c spawn) t := by
  simp only [step, ExecutionSession.joined] at ht
  split at ht
  · next hk => cases (h.held hk (Or.inl rfl)).1
  · next hk => cases (h.held hk (Or.inl rfl)).1
  · cases ht

lemma Serial.startEnds (h : Serial I calls s₀ L s) (ht : s.step I (.startEnds c) = some t) :
    Follows I calls s₀ L s (.startEnds c) t := by
  simp only [step, ExecutionSession.startEnds] at ht
  split at ht
  · next hk => cases (h.held hk (Or.inl rfl)).1
  · next hk => cases (h.held hk (Or.inl rfl)).1
  · cases ht

lemma Serial.exit (h : Serial I calls s₀ L s) (ht : s.step I .exit = some t) : Follows I calls s₀ L s .exit t := by
  obtain ⟨r, hr, -⟩ := Option.map_eq_some_iff.mp ht
  have hdown := (PythonRuntime.exit_cases hr).2
  rw [h.running] at hdown
  cases hdown

theorem Serial.step (h : Serial I calls s₀ L s) (ht : s.step I a = some t)
    (hup : t.runtime.up = true) : Follows I calls s₀ L s a t := by
  cases a with
  | begin c spawn => exact h.begin ht
  | grant c spawn => exact h.grant ht
  | send c => exact h.send ht
  | work machine => exact h.work ht (PythonRuntime.up_iff.mp hup).2
  | check c => exact h.check ht
  | probe c => exact h.probe ht
  | fetch c => exact h.fetch ht
  | recv c => exact h.recv ht
  | expire c => exact h.expire ht hup
  | joined c spawn => exact h.joined ht
  | startEnds c => exact h.startEnds ht
  | exit => exact h.exit ht

end ExecutionSession

end NotebookExecution.Execution
