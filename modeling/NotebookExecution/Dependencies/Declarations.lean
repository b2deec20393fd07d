import NotebookExecution.Dependencies.Manager
import NotebookExecution.Library.Refusal
import NotebookExecution.Library.Runs

/-! Declaring and deleting dependencies, and the spellings of one package. The table compares the
texts of two names; the resolver folds case and takes an underscore for a hyphen. `takes` says of a
name and a specifier whether the columns take them, which hold 128 characters each. -/

namespace NotebookExecution.Dependencies

open Library.Runs Library.Transaction Library.Table Store DependencyResolver DependencyValidator
  NotebookDependencyRepository

inductive DeclarationCall
  | declareDependency (e : Env) (notebookId : Uuid) (packageName : String)
      (versionSpecifier : Option String)
  | deleteDependency (k : Uuid)

def storeDependency {ε : Type} (takes : String → Option String → Bool) :
    Database → Except ε (Option NotebookDependency) × Database →
      Except (Refusal ε) (Option NotebookDependency) × Database :=
  storing fun o => o.all fun x => takes x.packageName x.versionSpecifier

def declare (takes : String → Option String → Bool) (d : Database) (e : Env) (notebookId : Uuid)
    (packageName : String) (versionSpecifier : Option String) :
    Except (Refusal DependencyFailure) (Option NotebookDependency) × Database :=
  storeDependency takes d
    (request d (DependencyManager.declareDependency e notebookId packageName versionSpecifier))

def DeclarationCall.perform (takes : String → Option String → Bool) (d : Database) :
    DeclarationCall → Database
  | .declareDependency e notebookId packageName versionSpecifier =>
    (declare takes d e notebookId packageName versionSpecifier).2
  | .deleteDependency k =>
    (request d (DependencyManager.deleteDependency k : Tx Database DependencyFailure Bool)).2

def declarationStep (takes : String → Option String → Bool) (d : Database) (c : DeclarationCall) :
    Option Database :=
  some (c.perform takes d)

/-- A package of a notebook, as the resolver sees it. -/
def byPackage (notebookId : Uuid) (name : String) : Uuid × String := (notebookId, canonicalName name)

def packageOf (x : NotebookDependency) : Uuid × String := byPackage x.notebookId x.packageName

def OnePerPackage (d : Database) : Prop := (d.notebookDependencies.map packageOf).Nodup

instance (d : Database) : Decidable (OnePerPackage d) := inferInstanceAs (Decidable (List.Nodup _))

def Replaces (takes : String → Option String → Bool) (d : Database) : DeclarationCall → Prop
  | .declareDependency e notebookId packageName versionSpecifier => ∀ name spec,
    validatePackageName packageName = .ok name → validateVersionSpecifier versionSpecifier = .ok spec →
    ∀ x ∈ d.notebookDependencies, packageOf x = byPackage notebookId name →
      declare takes d e notebookId packageName versionSpecifier =
        (.ok (some (TableOf.settled (assign spec) (stamp e) x)),
          notebookDependencyTable.put x.id (TableOf.settled (assign spec) (stamp e) x) d)
  | .deleteDependency _ => True

/-- A valid declaration of a package that the notebook has a row of spells the name as the row does,
and the columns take it. -/
def SpelledAlike (takes : String → Option String → Bool) (d : Database) : DeclarationCall → Prop
  | .declareDependency _ notebookId packageName versionSpecifier => ∀ name spec,
    validatePackageName packageName = .ok name → validateVersionSpecifier versionSpecifier = .ok spec →
    ∀ x ∈ d.notebookDependencies, packageOf x = byPackage notebookId name →
      x.packageName = name ∧ takes name spec = true
  | .deleteDependency _ => True

structure DeclaredOnce {β : Type} (f : Uuid → String → β) (d : Database) : Prop where
  ids : (d.notebookDependencies.map NotebookDependency.id).Nodup
  notebooks : ∀ x ∈ d.notebookDependencies, ∃ n ∈ d.notebooks, n.id = x.notebookId
  names : (d.notebookDependencies.map fun x => f x.notebookId x.packageName).Nodup

/-! ## One declaration -/

variable {β : Type} {f : Uuid → String → β} {takes : String → Option String → Bool} {d t : Database}
  {e : Env} {notebookId : Uuid}
  {packageName name : String} {versionSpecifier spec : Option String} {x y : NotebookDependency}

lemma DeclaredOnce.eq (h : DeclaredOnce f d) (hx : x ∈ d.notebookDependencies)
    (hy : y ∈ d.notebookDependencies) (hp : f x.notebookId x.packageName = f y.notebookId y.packageName) :
    x = y :=
  List.inj_on_of_nodup_map h.names hx hy hp

lemma DeclaredOnce.updates (h : DeclaredOnce f d) (hx : x ∈ d.notebookDependencies) :
    notebookDependencyClash d (stamp e (assign spec x)) = false := by
  rw [notebookDependencyClash, Bool.or_eq_false_iff]
  refine ⟨?_, ?_⟩
  · apply List.any_eq_false.mpr
    intro y hy
    simp only [decide_eq_true_eq, not_and]
    intro hid hyb hyn
    have hyx : y = x := h.eq hy hx (congrArg₂ f hyb hyn)
    rw [hyx] at hid
    exact hid rfl
  · obtain ⟨n, hn, hnx⟩ := h.notebooks x hx
    apply List.all_eq_false.mpr
    refine ⟨n, hn, ?_⟩
    rw [decide_eq_true_eq]
    exact fun hne => hne hnx

lemma declare_valid (hn : validatePackageName packageName = .ok name)
    (hs : validateVersionSpecifier versionSpecifier = .ok spec) (s : Session Database) :
    DependencyManager.declareDependency e notebookId packageName versionSpecifier s =
      (match s.view.notebookDependencies.find?
          (fun x : NotebookDependency => x.notebookId = notebookId ∧ x.packageName = name) with
        | some existing => NotebookDependencyRepository.update e existing.id spec
        | none => some <$> NotebookDependencyRepository.create e notebookId name spec) s := by
  rw [DependencyManager.declareDependency, hn]
  rw [bind_ok (rfl : (ofExcept (.ok name) : Tx Database DependencyFailure String) s = (.ok name, s)), hs]
  rw [bind_ok (rfl : (ofExcept (.ok spec) : Tx Database DependencyFailure (Option String)) s =
    (.ok spec, s))]
  rfl

lemma storeDependency_some {ε : Type} :
    storeDependency takes d ((.ok (some x), t) : Except ε _ × Database) =
      if takes x.packageName x.versionSpecifier then (.ok (some x), t) else (.error .dataError, d) := rfl

lemma settled_assigned (f : NotebookDependency → β) (hs : ∀ y, f (stamp e y) = f y) :
    f (TableOf.settled (assign spec) (stamp e) x) = f (assign spec x) :=
  TableOf.settled_field f hs x

lemma settled_kept (f : NotebookDependency → β) (ha : ∀ y, f (assign spec y) = f y)
    (hs : ∀ y, f (stamp e y) = f y) : f (TableOf.settled (assign spec) (stamp e) x) = f x := by
  rw [settled_assigned f hs, ha]

lemma settled_taken (takes : String → Option String → Bool) : takes (TableOf.settled (assign spec) (stamp e) x).packageName
    (TableOf.settled (assign spec) (stamp e) x).versionSpecifier = takes x.packageName spec := by
  rw [settled_kept NotebookDependency.packageName (fun _ => rfl) fun _ => rfl]
  rw [settled_assigned NotebookDependency.versionSpecifier fun _ => rfl]
  rfl

lemma declare_refused (h : ∀ name spec, validatePackageName packageName = .ok name →
      validateVersionSpecifier versionSpecifier ≠ .ok spec) :
    (declare takes d e notebookId packageName versionSpecifier).2 = d := by
  have hp : ∃ err, DependencyManager.declareDependency e notebookId packageName versionSpecifier (.open d) =
      (.error err, .open d) := by
    rw [DependencyManager.declareDependency]
    cases hn : validatePackageName packageName with
    | error err => exact ⟨err, bind_error rfl⟩
    | ok name =>
      cases hs : validateVersionSpecifier versionSpecifier with
      | ok spec => exact absurd hs (h name spec hn)
      | error err => exact ⟨err, (bind_ok rfl).trans (bind_error rfl)⟩
  obtain ⟨err, hp⟩ := hp
  rw [declare, request_raises hp rfl]
  rfl

lemma declare_existing (h : DeclaredOnce f d) (hn : validatePackageName packageName = .ok name)
    (hs : validateVersionSpecifier versionSpecifier = .ok spec) (hx : x ∈ d.notebookDependencies)
    (hb : x.notebookId = notebookId) (hw : x.packageName = name) :
    declare takes d e notebookId packageName versionSpecifier =
      if takes name spec then (.ok (some (TableOf.settled (assign spec) (stamp e) x)),
        notebookDependencyTable.put x.id (TableOf.settled (assign spec) (stamp e) x) d)
      else (.error .dataError, d) := by
  have hf : d.notebookDependencies.find?
      (fun x : NotebookDependency => x.notebookId = notebookId ∧ x.packageName = name) = some x := by
    cases hf : d.notebookDependencies.find?
        (fun x : NotebookDependency => x.notebookId = notebookId ∧ x.packageName = name) with
    | none =>
      have hno := List.find?_eq_none.mp hf x hx
      simp [hb, hw] at hno
    | some y =>
      have hy : y.notebookId = notebookId ∧ y.packageName = name := by simpa using List.find?_some hf
      have hyx : y = x := h.eq (List.mem_of_find?_eq_some hf) hx
        (congrArg₂ f (hy.1.trans hb.symm) (hy.2.trans hw.symm))
      rw [hyx]
  have hk : notebookDependencyTable.find x.id d = some x := lookup_of_mem h.ids hx
  have hp : DependencyManager.declareDependency e notebookId packageName versionSpecifier (.open d) =
      (.ok (some (TableOf.settled (assign spec) (stamp e) x)), { Session.open d with
        view := notebookDependencyTable.put x.id (TableOf.settled (assign spec) (stamp e) x) d }) := by
    rw [declare_valid hn hs]
    change (match d.notebookDependencies.find?
        (fun x : NotebookDependency => x.notebookId = notebookId ∧ x.packageName = name) with
      | some existing => NotebookDependencyRepository.update e existing.id spec
      | none => some <$> NotebookDependencyRepository.create e notebookId name spec) (.open d) = _
    rw [hf]
    exact notebookDependencyTable.update_settled hk (h.updates hx)
  rw [declare, request_returns hp, storeDependency_some, settled_taken takes, hw]

lemma declare_new (takes : String → Option String → Bool) (hn : validatePackageName packageName = .ok name)
    (hs : validateVersionSpecifier versionSpecifier = .ok spec)
    (h : ∀ x ∈ d.notebookDependencies, x.notebookId = notebookId → x.packageName ≠ name) :
    (∃ err, declare takes d e notebookId packageName versionSpecifier = (.error err, d)) ∨
      notebookDependencyTable.occupied notebookDependencyClash
          ⟨e.uuid, notebookId, name, spec, e.now, e.now⟩ d = false ∧
        declare takes d e notebookId packageName versionSpecifier =
          (.ok (some ⟨e.uuid, notebookId, name, spec, e.now, e.now⟩),
            notebookDependencyTable.append ⟨e.uuid, notebookId, name, spec, e.now, e.now⟩ d) := by
  have hf : d.notebookDependencies.find?
      (fun x : NotebookDependency => x.notebookId = notebookId ∧ x.packageName = name) = none := by
    apply List.find?_eq_none.mpr
    intro x hx
    simp only [decide_eq_true_eq, not_and]
    exact h x hx
  have hp : DependencyManager.declareDependency e notebookId packageName versionSpecifier (.open d) =
      (some <$> NotebookDependencyRepository.create e notebookId name spec) (.open d) := by
    rw [declare_valid hn hs]
    change (match d.notebookDependencies.find?
        (fun x : NotebookDependency => x.notebookId = notebookId ∧ x.packageName = name) with
      | some existing => NotebookDependencyRepository.update e existing.id spec
      | none => some <$> NotebookDependencyRepository.create e notebookId name spec) (.open d) = _
    rw [hf]
  rw [map_eq_pure_bind] at hp
  cases ho : notebookDependencyTable.occupied notebookDependencyClash
      ⟨e.uuid, notebookId, name, spec, e.now, e.now⟩ d with
  | true =>
    have hi : NotebookDependencyRepository.create e notebookId name spec (.open d) =
      (.error .integrityError, .open d) := notebookDependencyTable.insert_refused ho
    rw [bind_error hi] at hp
    exact Or.inl ⟨_, congrArg (storeDependency takes d) (request_raises hp rfl)⟩
  | false =>
    have hi : NotebookDependencyRepository.create e notebookId name spec (.open d) = (.ok _, _) :=
      notebookDependencyTable.insert_accepted ho
    rw [bind_ok hi] at hp
    rw [declare, request_returns hp, storeDependency_some]
    by_cases ht : takes name spec = true
    · exact Or.inr ⟨rfl, if_pos ht⟩
    · exact Or.inl ⟨_, if_neg ht⟩

lemma declare_cases (h : DeclaredOnce f d) (e : Env) (notebookId : Uuid) (packageName : String)
    (versionSpecifier : Option String) :
    (declare takes d e notebookId packageName versionSpecifier).2 = d ∨
      ∃ name spec, validatePackageName packageName = .ok name ∧
        validateVersionSpecifier versionSpecifier = .ok spec ∧
        ((∃ x ∈ d.notebookDependencies, x.notebookId = notebookId ∧ x.packageName = name ∧
            (declare takes d e notebookId packageName versionSpecifier).2 =
              notebookDependencyTable.put x.id (TableOf.settled (assign spec) (stamp e) x) d) ∨
          (∀ x ∈ d.notebookDependencies, x.notebookId = notebookId → x.packageName ≠ name) ∧
            notebookDependencyTable.occupied notebookDependencyClash
              ⟨e.uuid, notebookId, name, spec, e.now, e.now⟩ d = false ∧
            (declare takes d e notebookId packageName versionSpecifier).2 =
              notebookDependencyTable.append ⟨e.uuid, notebookId, name, spec, e.now, e.now⟩ d) := by
  by_cases hv : ∃ name spec, validatePackageName packageName = .ok name ∧
      validateVersionSpecifier versionSpecifier = .ok spec
  · obtain ⟨name, spec, hn, hs⟩ := hv
    by_cases hx : ∃ x ∈ d.notebookDependencies, x.notebookId = notebookId ∧ x.packageName = name
    · obtain ⟨x, hx, hb, hw⟩ := hx
      rw [declare_existing h hn hs hx hb hw]
      by_cases ht : takes name spec = true
      · rw [if_pos ht]
        exact Or.inr ⟨name, spec, hn, hs, Or.inl ⟨x, hx, hb, hw, rfl⟩⟩
      · rw [if_neg ht]
        exact Or.inl rfl
    · have hnew : ∀ x ∈ d.notebookDependencies, x.notebookId = notebookId → x.packageName ≠ name :=
        fun x hm hb hw => hx ⟨x, hm, hb, hw⟩
      rcases declare_new (e := e) takes hn hs hnew with ⟨err, he⟩ | ⟨ho, he⟩
      · exact Or.inl (congrArg Prod.snd he)
      · exact Or.inr ⟨name, spec, hn, hs, Or.inr ⟨hnew, ho, congrArg Prod.snd he⟩⟩
  · exact Or.inl (declare_refused fun name spec hn hs => hv ⟨name, spec, hn, hs⟩)

lemma DeclaredOnce.put (h : DeclaredOnce f d) (hx : x ∈ d.notebookDependencies) :
    DeclaredOnce f (notebookDependencyTable.put x.id (TableOf.settled (assign spec) (stamp e) x) d) where
  ids := by
    have hk : (replace NotebookDependency.id x.id (TableOf.settled (assign spec) (stamp e) x)
        d.notebookDependencies).map NotebookDependency.id = d.notebookDependencies.map NotebookDependency.id :=
      replace_map_key (settled_kept NotebookDependency.id (fun _ => rfl) fun _ => rfl)
    exact hk ▸ h.ids
  notebooks y hy := by
    cases notebookDependencyTable.mem_put hy with
    | inl hyx =>
      have hb : y.notebookId = x.notebookId := by
        rw [hyx]
        exact settled_kept NotebookDependency.notebookId (fun _ => rfl) fun _ => rfl
      exact hb ▸ h.notebooks x hx
    | inr hy => exact h.notebooks y hy
  names := by
    apply replace_map_nodup h.ids h.names
    intro y hy hne hp
    have hkept : f (TableOf.settled (assign spec) (stamp e) x).notebookId
        (TableOf.settled (assign spec) (stamp e) x).packageName = f x.notebookId x.packageName :=
      settled_kept (fun x => f x.notebookId x.packageName) (fun _ => rfl) fun _ => rfl
    exact hne (congrArg NotebookDependency.id (h.eq hy hx (hp.trans hkept)))

lemma DeclaredOnce.append (h : DeclaredOnce f d)
    (ho : notebookDependencyTable.occupied notebookDependencyClash x d = false)
    (hp : ∀ y ∈ d.notebookDependencies, f y.notebookId y.packageName ≠ f x.notebookId x.packageName) :
    DeclaredOnce f (notebookDependencyTable.append x d) := by
  rw [TableOf.occupied, Bool.or_eq_false_iff, notebookDependencyClash, Bool.or_eq_false_iff] at ho
  obtain ⟨hf, -, hb⟩ := ho
  refine ⟨?_, ?_, ?_⟩
  · apply concat_map_nodup h.ids
    have hn : notebookDependencyTable.find x.id d = none := by simpa using! hf
    exact lookup_none.mp hn
  · intro y hy
    cases List.mem_append.mp hy with
    | inl hy => exact h.notebooks y hy
    | inr hy =>
      rw [List.mem_singleton.mp hy]
      obtain ⟨n, hn, hnx⟩ := List.all_eq_false.mp hb
      exact ⟨n, hn, by simpa using hnx⟩
  · exact concat_map_nodup h.names hp

lemma DeclaredOnce.drop {k : Uuid} (h : DeclaredOnce f d) :
    DeclaredOnce f (notebookDependencyTable.drop k d) where
  ids := h.ids.sublist (List.filter_sublist.map _)
  notebooks _ hy := h.notebooks _ (mem_erase.mp hy).1
  names := h.names.sublist (List.filter_sublist.map _)

lemma DeclaredOnce.empty : DeclaredOnce f { d with notebookDependencies := [] } :=
  ⟨List.nodup_nil, fun _ hx => absurd hx List.not_mem_nil, List.nodup_nil⟩

lemma DeclaredOnce.declare (h : DeclaredOnce f d)
    (hc : ∀ name spec, validatePackageName packageName = .ok name →
      validateVersionSpecifier versionSpecifier = .ok spec → ∀ x ∈ d.notebookDependencies,
      f x.notebookId x.packageName = f notebookId name → x.notebookId = notebookId ∧ x.packageName = name) :
    DeclaredOnce f (declare takes d e notebookId packageName versionSpecifier).2 := by
  rcases declare_cases h e notebookId packageName versionSpecifier with
    hd | ⟨name, spec, hn, hs, ⟨x, hx, -, -, hd⟩ | ⟨hnew, ho, hd⟩⟩
  · exact hd.symm ▸ h
  · exact hd.symm ▸ h.put hx
  · rw [hd]
    apply h.append ho
    intro y hy hp
    obtain ⟨hb, hw⟩ := hc name spec hn hs y hy hp
    exact hnew y hy hb hw

lemma deleteDependency_perform (k : Uuid) :
    DeclarationCall.perform takes d (.deleteDependency k) = d ∨
      DeclarationCall.perform takes d (.deleteDependency k) = notebookDependencyTable.drop k d := by
  cases hf : notebookDependencyTable.find k d with
  | none => exact Or.inl (request_ok (notebookDependencyTable.delete_missing hf))
  | some x => exact Or.inr (request_ok (notebookDependencyTable.delete_found hf))

lemma declaredOnce_step {c : DeclarationCall} (h : DeclaredOnce byPackage d) (hc : SpelledAlike takes d c) :
    DeclaredOnce byPackage (c.perform takes d) := by
  cases c with
  | deleteDependency k =>
    cases deleteDependency_perform k with
    | inl hd => exact hd ▸ h
    | inr hd => exact hd ▸ h.drop
  | declareDependency e notebookId packageName versionSpecifier =>
    apply h.declare
    intro name spec hn hs x hx hp
    exact ⟨congrArg Prod.fst hp, (hc name spec hn hs x hx hp).1⟩

lemma replaces_of_spelledAlike {c : DeclarationCall} (h : DeclaredOnce byPackage d)
    (hc : SpelledAlike takes d c) : Replaces takes d c := by
  cases c with
  | deleteDependency k => trivial
  | declareDependency e notebookId packageName versionSpecifier =>
    intro name spec hn hs x hx hp
    have hb : x.notebookId = notebookId := congrArg Prod.fst hp
    obtain ⟨hw, ht⟩ := hc name spec hn hs x hx hp
    exact (declare_existing h hn hs hx hb hw).trans (if_pos ht)

lemma spelledAlike_of_replaces {c : DeclarationCall} (h : DeclaredOnce byPackage d)
    (hr : Replaces takes d c) : SpelledAlike takes d c := by
  cases c with
  | deleteDependency k => trivial
  | declareDependency e notebookId packageName versionSpecifier =>
    intro name spec hn hs x hx hp
    have hd := hr name spec hn hs x hx hp
    have hb : x.notebookId = notebookId := congrArg Prod.fst hp
    have hw : x.packageName = name := by
      by_contra hne
      have hnew : ∀ y ∈ d.notebookDependencies, y.notebookId = notebookId → y.packageName ≠ name := by
        intro y hy hb hw
        have hyx : y = x := h.eq hy hx ((congrArg₂ byPackage hb hw).trans hp.symm)
        exact hne (hyx ▸ hw)
      rcases declare_new (e := e) takes hn hs hnew with ⟨err, he⟩ | ⟨-, he⟩
      · rw [he] at hd
        cases (congrArg Prod.fst hd)
      · rw [he] at hd
        have hrow := congrArg Prod.fst hd
        simp only [Except.ok.injEq, Option.some.injEq] at hrow
        have hkept : (TableOf.settled (assign spec) (stamp e) x).packageName = x.packageName :=
          settled_kept NotebookDependency.packageName (fun _ => rfl) fun _ => rfl
        rw [← hrow] at hkept
        exact hne hkept.symm
    refine ⟨hw, ?_⟩
    by_contra ht
    rw [declare_existing h hn hs hx hb hw, if_neg ht] at hd
    cases (congrArg Prod.fst hd)

theorem one_declaration_per_package (takes : String → Option String → Bool) (d : Database)
    (calls : List DeclarationCall) :
    Along (declarationStep takes) (fun s c t => OnePerPackage t ∧ Replaces takes s c)
        { d with notebookDependencies := [] } calls ↔
      Along (declarationStep takes) (fun s c _ => SpelledAlike takes s c)
        { d with notebookDependencies := [] } calls := by
  apply along_iff_of_keeps (I := DeclaredOnce byPackage)
  · intro s c t hs ht hc
    cases ht
    exact declaredOnce_step hs hc
  · intro s c t hs ht
    cases ht
    constructor
    · rintro ⟨-, hr⟩
      exact spelledAlike_of_replaces hs hr
    · intro hc
      exact ⟨(declaredOnce_step hs hc).names, replaces_of_spelledAlike hs hc⟩
  · exact DeclaredOnce.empty

def notebookOnly : Database :=
  { Database.empty with
    workspaces := [⟨1, "w", none, 0, 0⟩]
    projects := [⟨2, 1, "p", none, 0, 0⟩]
    notebooks := [⟨3, 2, "n", none, "python", 0, 0⟩] }

def twoSpellings : List DeclarationCall :=
  [.declareDependency ⟨4, 0⟩ 3 "scikit-learn" (some "1.4"),
    .declareDependency ⟨5, 0⟩ 3 "Scikit_Learn" (some "1.5")]

theorem respelled_package_added : ¬ ∀ (takes : String → Option String → Bool) (d : Database) calls,
    Along (declarationStep takes) (fun s c t => OnePerPackage t ∧ Replaces takes s c)
      { d with notebookDependencies := [] } calls := by
  intro h
  have hone : Along (declarationStep fun _ _ => true) (fun _ _ t => OnePerPackage t)
      { notebookOnly with notebookDependencies := [] } twoSpellings :=
    (h (fun _ _ => true) notebookOnly twoSpellings).imp fun s c t _ hp => hp.1
  exact absurd hone (by decide +kernel)

end NotebookExecution.Dependencies
