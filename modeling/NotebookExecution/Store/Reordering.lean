import NotebookExecution.Library.Batch
import NotebookExecution.Library.Refusal
import NotebookExecution.Library.Sorting
import NotebookExecution.Store.Repositories

/-! Reordering the cells of a notebook: the flush writes one row after the other, and the unique
constraint on the position is checked after each. -/

namespace NotebookExecution.Store

open Library.Transaction Library.Table Library.Batch

namespace NotebookCellRepository

def assignPosition (cellPositions : Uuid → Option ℤ) (c : NotebookCell) : NotebookCell :=
  { c with position := (cellPositions c.id).getD c.position }

def changed (cellPositions : Uuid → Option ℤ) (cells : List NotebookCell) : List NotebookCell :=
  (cells.filter fun c => assignPosition cellPositions c ≠ c).insertionSort fun x y => x.id ≤ y.id

/-- The UPDATE of one row, when `takes` says that the column takes its position. -/
def flushCell (takes : ℤ → Bool) (e : Env) (c : NotebookCell) : Tx Database (Refusal ServiceError) Unit := do
  if takes c.position then
    let _ ← notebookCellTable.update notebookCellClash (.raised .integrityError) c.id
      (fun row => { row with position := c.position }) (stamp e)
  else throw .dataError

def flush (takes : ℤ → Bool) (e : Env) : List NotebookCell → Tx Database (Refusal ServiceError) Unit
  | [] => pure ()
  | c :: rest => do
    flushCell takes e c
    flush takes e rest

def reorderCells (takes : ℤ → Bool) (e : Env) (notebookId : Uuid) (cellPositions : Uuid → Option ℤ) :
    Tx Database (Refusal ServiceError) (List NotebookCell) := do
  let cells ← listByNotebook notebookId
  flush takes e ((changed cellPositions cells).map (assignPosition cellPositions))
  listByNotebook notebookId

end NotebookCellRepository

open NotebookCellRepository

def ofNotebook (k : Uuid) (d : Database) : List NotebookCell :=
  d.notebookCells.filter fun c => c.notebookId = k

def Reorders (move : NotebookCell → NotebookCell) (k : Uuid) (s : Session Database)
    (r : Except (Refusal ServiceError) (List NotebookCell) × Session Database) : Prop :=
  ∃ answer d', r = (.ok answer, { s with view := d' }) ∧
    d' = { s.view with
      notebookCells := s.view.notebookCells.map fun c => if c.notebookId = k then move c else c } ∧
    answer.Perm (ofNotebook k d') ∧ answer.Pairwise fun x y => x.position < y.position

/-- A row that is written is stamped, and one that keeps its position is not written. -/
def moved (e : Env) (cellPositions : Uuid → Option ℤ) (c : NotebookCell) : NotebookCell :=
  TableOf.settled (assignPosition cellPositions) (stamp e) c

def Unobstructed (cellPositions : Uuid → Option ℤ) (cells : List NotebookCell) : Prop :=
  ∀ x ∈ cells, ∀ y ∈ cells, assignPosition cellPositions x ≠ x → assignPosition cellPositions y ≠ y →
    (assignPosition cellPositions x).position = y.position → y.id ≤ x.id

instance (cellPositions : Uuid → Option ℤ) (cells : List NotebookCell) :
    Decidable (Unobstructed cellPositions cells) :=
  inferInstanceAs (Decidable (∀ x ∈ cells, ∀ y ∈ cells, _ → _ → _ → _))

variable {takes : ℤ → Bool} {e : Env} {k : Uuid} {cellPositions : Uuid → Option ℤ} {d : Database}
  {s : Session Database} {c : NotebookCell} {l : List NotebookCell} {done : List Uuid}

def after (e : Env) (cellPositions : Uuid → Option ℤ) (done : List Uuid) (d : Database) : Database :=
  { d with
    notebookCells :=
      partway NotebookCell.id (fun c => stamp e (assignPosition cellPositions c)) done d.notebookCells }

lemma find_after (hn : (d.notebookCells.map NotebookCell.id).Nodup) (hc : c ∈ d.notebookCells)
    (hd : c.id ∉ done) : notebookCellTable.find c.id (after e cellPositions done d) = some c := by
  have hm : ∀ x, (stamp e (assignPosition cellPositions x)).id = x.id := fun x => rfl
  exact lookup_partway hn hm hc hd

lemma put_after (hn : (d.notebookCells.map NotebookCell.id).Nodup) (hc : c ∈ d.notebookCells) :
    notebookCellTable.put c.id (stamp e (assignPosition cellPositions c)) (after e cellPositions done d) =
      after e cellPositions (done ++ [c.id]) d := by
  have hm : ∀ x, (stamp e (assignPosition cellPositions x)).id = x.id := fun x => rfl
  have hr : replace NotebookCell.id c.id (stamp e (assignPosition cellPositions c))
      (after e cellPositions done d).notebookCells = (after e cellPositions (done ++ [c.id]) d).notebookCells :=
    replace_partway hn hm hc
  rw [after, after]
  exact congrArg (fun t => { d with notebookCells := t }) hr

lemma clash_after (hk : ∃ n ∈ d.notebooks, n.id = k) (hc : c ∈ ofNotebook k d)
    (hp : ((ofNotebook k d).map fun x => (assignPosition cellPositions x).position).Nodup) :
    notebookCellClash (after e cellPositions done d) (stamp e (assignPosition cellPositions c)) = true ↔
      ∃ y ∈ ofNotebook k d, y.id ∉ done ∧ y.id ≠ c.id ∧
        y.position = (assignPosition cellPositions c).position := by
  obtain ⟨hcd, hck⟩ := List.mem_filter.mp hc
  have hck : c.notebookId = k := of_decide_eq_true hck
  have hall : (d.notebooks.all fun n => n.id ≠ c.notebookId) = false := by
    obtain ⟨n, hn, hnk⟩ := hk
    rw [List.all_eq_false]
    refine ⟨n, hn, by simp [hnk, hck]⟩
  have hm : ∀ x, (stamp e (assignPosition cellPositions x)).id = x.id := fun x => rfl
  have hheld : (∃ y ∈ partway NotebookCell.id (fun x => stamp e (assignPosition cellPositions x)) done
        (ofNotebook k d), y.id ≠ c.id ∧ y.position = (stamp e (assignPosition cellPositions c)).position) ↔
      ∃ y ∈ ofNotebook k d, y.id ∉ done ∧ y.id ≠ c.id ∧
        y.position = (stamp e (assignPosition cellPositions c)).position := held_iff hp hm hc
  have hkept : ∀ x : NotebookCell, decide ((stamp e (assignPosition cellPositions x)).notebookId = k) =
    decide (x.notebookId = k) := fun x => rfl
  have hf : partway NotebookCell.id (fun x => stamp e (assignPosition cellPositions x)) done (ofNotebook k d) =
      (after e cellPositions done d).notebookCells.filter fun c => c.notebookId = k :=
    (partway_filter hkept).symm
  rw [hf] at hheld
  refine Iff.trans ?_ hheld
  rw [notebookCellClash]
  change ((_ || d.notebooks.all fun n => n.id ≠ c.notebookId) = true) ↔ _
  rw [hall, Bool.or_false, List.any_eq_true]
  constructor
  · rintro ⟨y, hy, h⟩
    obtain ⟨hid, hn, hpos⟩ := of_decide_eq_true h
    exact ⟨y, List.mem_filter.mpr ⟨hy, decide_eq_true (hn.trans hck)⟩, hid, hpos⟩
  · rintro ⟨y, hy, hid, hpos⟩
    obtain ⟨hy, hn⟩ := List.mem_filter.mp hy
    exact ⟨y, hy, decide_eq_true ⟨hid, (of_decide_eq_true hn).trans hck.symm, hpos⟩⟩

lemma flushCell_refused (h : takes (assignPosition cellPositions c).position = false) :
    flushCell takes e (assignPosition cellPositions c) s = (.error .dataError, s) := by
  rw [flushCell, h]
  rfl

lemma flushCell_taken (h : takes (assignPosition cellPositions c).position = true) :
    flushCell takes e (assignPosition cellPositions c) =
      (do
        let _ ← notebookCellTable.update notebookCellClash (.raised .integrityError) c.id
          (fun row => { row with position := (assignPosition cellPositions c).position }) (stamp e)) := by
  rw [flushCell, h]
  rfl

lemma flushCell_clash (ht : takes (assignPosition cellPositions c).position = true)
    (hf : notebookCellTable.find c.id s.view = some c) (hc : assignPosition cellPositions c ≠ c)
    (h : notebookCellClash s.view (stamp e (assignPosition cellPositions c)) = true) :
    flushCell takes e (assignPosition cellPositions c) s = (.error (.raised .integrityError), s) := by
  rw [flushCell_taken ht]
  exact bind_error (notebookCellTable.update_refused hf hc h)

lemma flushCell_free (ht : takes (assignPosition cellPositions c).position = true)
    (hf : notebookCellTable.find c.id s.view = some c) (hc : assignPosition cellPositions c ≠ c)
    (h : notebookCellClash s.view (stamp e (assignPosition cellPositions c)) = false) :
    flushCell takes e (assignPosition cellPositions c) s =
      (.ok (), { s with
        view := notebookCellTable.put c.id (stamp e (assignPosition cellPositions c)) s.view }) := by
  rw [flushCell_taken ht]
  exact bind_ok (notebookCellTable.update_accepted hf hc h)

def Passable (takes : ℤ → Bool) (cellPositions : Uuid → Option ℤ) (l : List NotebookCell) : Prop :=
  (∀ c ∈ l, takes (assignPosition cellPositions c).position = true) ∧
    l.Pairwise fun x y => (assignPosition cellPositions x).position ≠ y.position

lemma passable_cons : Passable takes cellPositions (c :: l) ↔
    takes (assignPosition cellPositions c).position = true ∧
      (∀ y ∈ l, (assignPosition cellPositions c).position ≠ y.position) ∧ Passable takes cellPositions l := by
  rw [Passable, Passable, List.forall_mem_cons, List.pairwise_cons]
  tauto

lemma flush_cases (takes : ℤ → Bool) (e : Env) (committed : Database)
    (hids : (d.notebookCells.map NotebookCell.id).Nodup)
    (hk : ∃ n ∈ d.notebooks, n.id = k)
    (hp : ((ofNotebook k d).map fun x => (assignPosition cellPositions x).position).Nodup)
    (hs : l.Pairwise fun x y => x.id < y.id)
    (hl : ∀ c ∈ l, c ∈ ofNotebook k d ∧ assignPosition cellPositions c ≠ c ∧ c.id ∉ done)
    (hrest : ∀ y ∈ ofNotebook k d, assignPosition cellPositions y ≠ y → y.id ∈ done ∨ y ∈ l) :
    Passable takes cellPositions l ∧
        flush takes e (l.map (assignPosition cellPositions)) ⟨committed, after e cellPositions done d⟩ =
          (.ok (), ⟨committed, after e cellPositions (done ++ l.map NotebookCell.id) d⟩) ∨
      ¬ Passable takes cellPositions l ∧ ∃ err t,
        flush takes e (l.map (assignPosition cellPositions)) ⟨committed, after e cellPositions done d⟩ =
          (.error err, t) := by
  induction l generalizing done with
  | nil =>
    rw [List.map_nil, List.map_nil, List.append_nil]
    exact Or.inl ⟨⟨fun c hc => (List.not_mem_nil hc).elim, .nil⟩, rfl⟩
  | cons c l ih =>
    obtain ⟨hc, hne, hd⟩ := hl c List.mem_cons_self
    rw [List.pairwise_cons] at hs
    have hcd : c ∈ d.notebookCells := List.mem_of_mem_filter hc
    have hfind : notebookCellTable.find c.id (after e cellPositions done d) = some c := find_after hids hcd hd
    rw [passable_cons, List.map_cons, flush]
    by_cases ht : takes (assignPosition cellPositions c).position = true
    swap
    · refine Or.inr ⟨fun h => ht h.1, _, _, bind_error (flushCell_refused (Bool.eq_false_iff.mpr ht))⟩
    -- A slot that is taken is left later: by final distinctness its row moves, and by `hrest` it is in `l`.
    have hheld : notebookCellClash (after e cellPositions done d) (stamp e (assignPosition cellPositions c)) =
        true ↔ ∃ y ∈ l, y.position = (assignPosition cellPositions c).position := by
      rw [clash_after hk hc hp]
      constructor
      · rintro ⟨y, hy, hyd, hyc, hpos⟩
        have hmoves : assignPosition cellPositions y ≠ y := by
          intro he
          have hyc' : y = c := List.inj_on_of_nodup_map hp hy hc ((congrArg NotebookCell.position he).trans hpos)
          exact hyc (congrArg NotebookCell.id hyc')
        have hyl : y ∈ c :: l := (hrest y hy hmoves).resolve_left hyd
        exact ⟨y, (List.mem_cons.mp hyl).resolve_left fun h => hyc (congrArg NotebookCell.id h), hpos⟩
      · rintro ⟨y, hy, hpos⟩
        obtain ⟨hyk, -, hyd⟩ := hl y (List.mem_cons_of_mem c hy)
        exact ⟨y, hyk, hyd, (hs.1 y hy).ne', hpos⟩
    cases hcl : notebookCellClash (after e cellPositions done d) (stamp e (assignPosition cellPositions c)) with
    | true =>
      obtain ⟨y, hy, hpos⟩ := hheld.mp hcl
      exact Or.inr ⟨fun h => h.2.1 y hy hpos.symm, _, _, bind_error (flushCell_clash ht hfind hne hcl)⟩
    | false =>
      have hfree : ∀ y ∈ l, (assignPosition cellPositions c).position ≠ y.position := by
        intro y hy hpos
        rw [hheld.mpr ⟨y, hy, hpos.symm⟩] at hcl
        cases hcl
      have hnext : ∀ x ∈ l, x ∈ ofNotebook k d ∧ assignPosition cellPositions x ≠ x ∧ x.id ∉ done ++ [c.id] := by
        intro x hx
        obtain ⟨hxk, hxne, hxd⟩ := hl x (List.mem_cons_of_mem c hx)
        refine ⟨hxk, hxne, ?_⟩
        simp [hxd, (hs.1 x hx).ne']
      have hleft : ∀ y ∈ ofNotebook k d, assignPosition cellPositions y ≠ y → y.id ∈ done ++ [c.id] ∨ y ∈ l := by
        intro y hy hyne
        rcases hrest y hy hyne with hyd | hyl
        · exact Or.inl (List.mem_append_left _ hyd)
        · cases List.mem_cons.mp hyl with
          | inl h => exact Or.inl (by simp [h])
          | inr h => exact Or.inr h
      have hstep := flushCell_free (s := ⟨committed, after e cellPositions done d⟩) ht hfind hne hcl
      rw [put_after hids hcd] at hstep
      rw [bind_ok hstep]
      rcases ih hs.2 hnext hleft with ⟨hpass, hrun⟩ | ⟨hpass, hrun⟩
      · refine Or.inl ⟨⟨ht, hfree, hpass⟩, ?_⟩
        rw [hrun, List.map_cons, List.append_assoc]
        rfl
      · exact Or.inr ⟨fun h => hpass h.2.2, hrun⟩

/-! ## The call -/

lemma mem_cellsOf : c ∈ cellsOf k d ↔ c ∈ ofNotebook k d := List.mem_insertionSort _

lemma mem_changed : c ∈ changed cellPositions (cellsOf k d) ↔
    c ∈ ofNotebook k d ∧ assignPosition cellPositions c ≠ c := by
  rw [changed, List.mem_insertionSort, List.mem_filter, mem_cellsOf, decide_eq_true_eq]

lemma changed_sorted (hids : (d.notebookCells.map NotebookCell.id).Nodup) :
    (changed cellPositions (cellsOf k d)).Pairwise fun x y => x.id < y.id := by
  obtain ⟨hperm, hle⟩ := Library.Sorting.answers_insertionSort NotebookCell.id
    ((cellsOf k d).filter fun c => assignPosition cellPositions c ≠ c)
  have hn : ((cellsOf k d).map NotebookCell.id).Nodup :=
    ((List.perm_insertionSort _ _).map _).nodup_iff.mpr (hids.sublist (List.filter_sublist.map _))
  have hne : ((changed cellPositions (cellsOf k d)).map NotebookCell.id).Nodup :=
    (hperm.map _).nodup_iff.mpr (hn.sublist (List.filter_sublist.map _))
  exact (hle.and (List.pairwise_map.mp hne)).imp fun h => lt_of_le_of_ne h.1 h.2

lemma passable_changed (hids : (d.notebookCells.map NotebookCell.id).Nodup) :
    Passable takes cellPositions (changed cellPositions (cellsOf k d)) ↔
      Unobstructed cellPositions (ofNotebook k d) ∧ ∀ c ∈ ofNotebook k d, assignPosition cellPositions c ≠ c →
        takes (assignPosition cellPositions c).position = true := by
  have hp : ((changed cellPositions (cellsOf k d)).Pairwise fun x y =>
        (assignPosition cellPositions x).position ≠ y.position) ↔
      ∀ x ∈ changed cellPositions (cellsOf k d), ∀ y ∈ changed cellPositions (cellsOf k d),
        (assignPosition cellPositions x).position = y.position → y.id ≤ x.id :=
    pairwise_iff (changed_sorted hids)
  rw [Passable, hp]
  constructor
  · rintro ⟨ht, hu⟩
    refine ⟨fun x hx y hy hxne hyne he => ?_, fun c hc hne => ht c (mem_changed.mpr ⟨hc, hne⟩)⟩
    exact hu x (mem_changed.mpr ⟨hx, hxne⟩) y (mem_changed.mpr ⟨hy, hyne⟩) he
  · rintro ⟨hu, ht⟩
    refine ⟨fun c hc => ?_, fun x hx y hy he => ?_⟩
    · obtain ⟨hck, hne⟩ := mem_changed.mp hc
      exact ht c hck hne
    · obtain ⟨hxk, hxne⟩ := mem_changed.mp hx
      obtain ⟨hyk, hyne⟩ := mem_changed.mp hy
      exact hu x hxk y hyk hxne hyne he

lemma after_changed (hids : (d.notebookCells.map NotebookCell.id).Nodup) :
    after e cellPositions ((changed cellPositions (cellsOf k d)).map NotebookCell.id) d =
      { d with
        notebookCells := d.notebookCells.map fun c => if c.notebookId = k then moved e cellPositions c else c } := by
  rw [after, partway]
  congr 1
  apply List.map_congr_left
  intro c hc
  have hm : c.id ∈ (changed cellPositions (cellsOf k d)).map NotebookCell.id ↔
      c.notebookId = k ∧ assignPosition cellPositions c ≠ c := by
    constructor
    · intro h
      obtain ⟨x, hx, hxc⟩ := List.mem_map.mp h
      obtain ⟨hxk, hne⟩ := mem_changed.mp hx
      obtain ⟨hxd, hxk⟩ := List.mem_filter.mp hxk
      have he : x = c := List.inj_on_of_nodup_map hids hxd hc hxc
      exact he ▸ ⟨of_decide_eq_true hxk, hne⟩
    · rintro ⟨hk, hne⟩
      exact List.mem_map_of_mem (mem_changed.mpr ⟨List.mem_filter.mpr ⟨hc, decide_eq_true hk⟩, hne⟩)
  by_cases hk : c.notebookId = k
  · by_cases hne : assignPosition cellPositions c = c
    · rw [if_neg (fun h => (hm.mp h).2 hne), if_pos hk, moved, TableOf.settled, if_pos hne]
    · rw [if_pos (hm.mpr ⟨hk, hne⟩), if_pos hk, moved, TableOf.settled, if_neg hne]
  · rw [if_neg (fun h => hk (hm.mp h).1), if_neg hk]

lemma ofNotebook_map {move : NotebookCell → NotebookCell} (h : ∀ c, (move c).notebookId = c.notebookId) :
    ofNotebook k { d with notebookCells := d.notebookCells.map fun c => if c.notebookId = k then move c else c } =
      (ofNotebook k d).map move := by
  change (d.notebookCells.map _).filter _ = (d.notebookCells.filter _).map move
  induction d.notebookCells with
  | nil => rfl
  | cons c t ih =>
    rw [List.map_cons]
    by_cases hc : c.notebookId = k
    · have hm : decide ((move c).notebookId = k) = true := decide_eq_true ((h c).trans hc)
      rw [if_pos hc, List.filter_cons, if_pos hm, ih, List.filter_cons, if_pos (decide_eq_true hc), List.map_cons]
    · have hn : ¬ decide (c.notebookId = k) = true := by simpa using hc
      rw [if_neg hc, List.filter_cons, if_neg hn, ih, List.filter_cons, if_neg hn]

lemma cellsOf_increasing (h : ((ofNotebook k d).map NotebookCell.position).Nodup) :
    (cellsOf k d).Pairwise fun x y => x.position < y.position := by
  obtain ⟨hperm, hle⟩ := Library.Sorting.answers_insertionSort NotebookCell.position (ofNotebook k d)
  have hne : ((cellsOf k d).map NotebookCell.position).Nodup := (hperm.map _).nodup_iff.mpr h
  exact (hle.and (List.pairwise_map.mp hne)).imp fun h => lt_of_le_of_ne h.1 h.2

lemma moved_position : (moved e cellPositions c).position = (assignPosition cellPositions c).position := by
  have hs : ∀ x, (stamp e x).position = x.position := fun x => rfl
  exact TableOf.settled_field NotebookCell.position hs c

lemma moved_notebookId : (moved e cellPositions c).notebookId = c.notebookId := by
  have hs : ∀ x, (stamp e x).notebookId = x.notebookId := fun x => rfl
  exact TableOf.settled_field NotebookCell.notebookId hs c

lemma moved_eq : moved e cellPositions c = assignPosition cellPositions c ↔
    (assignPosition cellPositions c ≠ c → c.updatedAt = e.now) := by
  rw [moved, TableOf.settled]
  by_cases h : assignPosition cellPositions c = c
  · rw [if_pos h]
    exact iff_of_true h.symm fun hne => absurd h hne
  · rw [if_neg h]
    constructor
    · intro he _
      exact (congrArg NotebookCell.updatedAt he).symm
    · intro he
      have hu : c.updatedAt = e.now := he h
      rw [stamp, assignPosition, hu]

def reordered (e : Env) (cellPositions : Uuid → Option ℤ) (k : Uuid) (d : Database) : Database :=
  { d with notebookCells := d.notebookCells.map fun c => if c.notebookId = k then moved e cellPositions c else c }

lemma reorderCells_cases (takes : ℤ → Bool) (e : Env) (hids : (s.view.notebookCells.map NotebookCell.id).Nodup)
    (hk : ∃ n ∈ s.view.notebooks, n.id = k)
    (hp : ((ofNotebook k s.view).map fun x => (assignPosition cellPositions x).position).Nodup) :
    Passable takes cellPositions (changed cellPositions (cellsOf k s.view)) ∧
        reorderCells takes e k cellPositions s =
          (.ok (cellsOf k (reordered e cellPositions k s.view)),
            { s with view := reordered e cellPositions k s.view }) ∨
      ¬ Passable takes cellPositions (changed cellPositions (cellsOf k s.view)) ∧
        ∃ err t, reorderCells takes e k cellPositions s = (.error err, t) := by
  have hlist : (listByNotebook k : Tx Database (Refusal ServiceError) _) s = (.ok (cellsOf k s.view), s) := rfl
  have hs : s = ⟨s.committed, after e cellPositions [] s.view⟩ := by
    rw [after, partway_nil]
  have hl : ∀ c ∈ changed cellPositions (cellsOf k s.view),
      c ∈ ofNotebook k s.view ∧ assignPosition cellPositions c ≠ c ∧ c.id ∉ ([] : List Uuid) := by
    intro c hc
    obtain ⟨hck, hne⟩ := mem_changed.mp hc
    exact ⟨hck, hne, List.not_mem_nil⟩
  have hrest : ∀ y ∈ ofNotebook k s.view, assignPosition cellPositions y ≠ y →
      y.id ∈ ([] : List Uuid) ∨ y ∈ changed cellPositions (cellsOf k s.view) :=
    fun y hy hne => Or.inr (mem_changed.mpr ⟨hy, hne⟩)
  rw [reorderCells, bind_ok hlist]
  rcases flush_cases takes e s.committed hids hk hp (changed_sorted hids) hl hrest with
    ⟨hpass, hrun⟩ | ⟨hpass, err, t, hrun⟩
  · rw [← hs, List.nil_append, after_changed hids] at hrun
    exact Or.inl ⟨hpass, bind_ok hrun⟩
  · rw [← hs] at hrun
    exact Or.inr ⟨hpass, err, t, bind_error hrun⟩

lemma reorders_iff {move : NotebookCell → NotebookCell} (hids : (s.view.notebookCells.map NotebookCell.id).Nodup)
    (hk : ∃ n ∈ s.view.notebooks, n.id = k)
    (hp : ((ofNotebook k s.view).map fun x => (assignPosition cellPositions x).position).Nodup) :
    Reorders move k s (reorderCells takes e k cellPositions s) ↔
      Passable takes cellPositions (changed cellPositions (cellsOf k s.view)) ∧
        ∀ c ∈ ofNotebook k s.view, moved e cellPositions c = move c := by
  rcases reorderCells_cases takes e hids hk hp with ⟨hpass, hr⟩ | ⟨hpass, err, t, hr⟩
  · rw [hr]
    constructor
    · rintro ⟨answer, d', he, hd, -, -⟩
      refine ⟨hpass, fun c hc => ?_⟩
      obtain ⟨hcd, hck⟩ := List.mem_filter.mp hc
      have hview : reordered e cellPositions k s.view = d' := congrArg (fun r => r.2.view) he
      have hcells := congrArg Database.notebookCells (hview.trans hd)
      have hcc := List.map_inj_left.mp hcells c hcd
      rwa [if_pos (of_decide_eq_true hck), if_pos (of_decide_eq_true hck)] at hcc
    · rintro ⟨-, hm⟩
      have hpos : ((ofNotebook k (reordered e cellPositions k s.view)).map NotebookCell.position).Nodup := by
        rw [reordered, ofNotebook_map fun c => moved_notebookId, List.map_map]
        have hfun : NotebookCell.position ∘ moved e cellPositions =
            fun c => (assignPosition cellPositions c).position := funext fun c => moved_position
        rw [hfun]
        exact hp
      refine ⟨_, _, rfl, ?_, List.perm_insertionSort _ _, cellsOf_increasing hpos⟩
      rw [reordered]
      congr 1
      apply List.map_congr_left
      intro c hc
      by_cases hck : c.notebookId = k
      · rw [if_pos hck, if_pos hck]
        exact hm c (List.mem_filter.mpr ⟨hc, decide_eq_true hck⟩)
      · rw [if_neg hck, if_neg hck]
  · rw [hr]
    refine iff_of_false ?_ fun h => hpass h.1
    rintro ⟨answer, d', he, -⟩
    cases he

/-- Over the keys and positions that the declared constraints keep distinct, before the call and after. The
second part counts the stamp of `updated_at` as a change. -/
theorem reordering_iff (takes : ℤ → Bool) (e : Env) (k : Uuid) (cellPositions : Uuid → Option ℤ)
    (s : Session Database) (hids : (s.view.notebookCells.map NotebookCell.id).Nodup)
    (hk : ∃ n ∈ s.view.notebooks, n.id = k)
    (hp : ((ofNotebook k s.view).map fun c => (assignPosition cellPositions c).position).Nodup) :
    (Reorders (moved e cellPositions) k s (reorderCells takes e k cellPositions s) ↔
        Unobstructed cellPositions (ofNotebook k s.view) ∧
          ∀ c ∈ ofNotebook k s.view, assignPosition cellPositions c ≠ c →
            takes (assignPosition cellPositions c).position = true) ∧
      (Reorders (assignPosition cellPositions) k s (reorderCells takes e k cellPositions s) ↔
        Unobstructed cellPositions (ofNotebook k s.view) ∧
          ∀ c ∈ ofNotebook k s.view, assignPosition cellPositions c ≠ c →
            takes (assignPosition cellPositions c).position = true ∧ c.updatedAt = e.now) := by
  constructor
  · rw [reorders_iff hids hk hp, passable_changed hids]
    exact and_iff_left fun c _ => rfl
  · rw [reorders_iff hids hk hp, passable_changed hids, and_assoc, and_congr_right_iff]
    intro _
    constructor
    · rintro ⟨ht, hm⟩ c hc hne
      exact ⟨ht c hc hne, moved_eq.mp (hm c hc) hne⟩
    · intro h
      exact ⟨fun c hc hne => (h c hc hne).1, fun c hc => moved_eq.mpr fun hne => (h c hc hne).2⟩

def twoCells : Database :=
  { Database.empty with
    notebooks := [⟨1, 0, "n", none, "python", 0, 0⟩]
    notebookCells := [⟨2, 1, 0, "code", "a", 0, 0⟩, ⟨3, 1, 1, "code", "b", 0, 0⟩] }

def toPositions (first second : ℤ) (k : Uuid) : Option ℤ :=
  if k = 2 then some first else if k = 3 then some second else none

theorem twoCells_rotated : Reorders (moved ⟨0, 9⟩ (toPositions 5 0)) 1 (.open twoCells)
    (reorderCells (fun _ => true) ⟨0, 9⟩ 1 (toPositions 5 0) (.open twoCells)) := by
  have hids : (twoCells.notebookCells.map NotebookCell.id).Nodup := by decide
  have hk : ∃ n ∈ twoCells.notebooks, n.id = 1 := by decide
  have hp : ((ofNotebook 1 twoCells).map fun c => (assignPosition (toPositions 5 0) c).position).Nodup := by
    decide
  have hu : Unobstructed (toPositions 5 0) (ofNotebook 1 twoCells) := by decide
  exact (reordering_iff (fun _ => true) ⟨0, 9⟩ 1 (toPositions 5 0) (.open twoCells) hids hk hp).1.mpr
    ⟨hu, fun c _ _ => rfl⟩

theorem swap_refused : ((ofNotebook 1 twoCells).map fun c => (assignPosition (toPositions 1 0) c).position).Nodup ∧
    ∀ move, ¬ Reorders move 1 (.open twoCells)
      (reorderCells (fun _ => true) ⟨0, 9⟩ 1 (toPositions 1 0) (.open twoCells)) := by
  refine ⟨by decide, ?_⟩
  rintro move ⟨answer, d', hr, -⟩
  have herr : (reorderCells (fun _ => true) ⟨0, 9⟩ 1 (toPositions 1 0) (.open twoCells)).1.toBool = false := by
    decide +kernel
  rw [hr] at herr
  cases herr

end NotebookExecution.Store
