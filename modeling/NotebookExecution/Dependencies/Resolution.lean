import NotebookExecution.Dependencies.Validity

/-! What the resolver makes of a list of items that each validate: which lists it refuses, and which
specifier each package ends up with. -/

namespace NotebookExecution.Dependencies

open DependencyResolver DependencyValidator

namespace DependencyResolver

/-- The validated name and specifier of an item. -/
structure Mention where
  name : String
  spec : Option String
  deriving DecidableEq

namespace Mention

def key (x : Mention) : String := canonicalName x.name

def resolved (x : Mention) : Resolved := ⟨x.name, x.spec.getD "", x.name ++ x.spec.getD ""⟩

end Mention

def mention (item : PackageItem) : Except DependencyFailure Mention := do
  let p ← parts item
  match p.1.filter fun name => name ≠ "" with
  | none => .error (.validation "" "Missing required 'package_name' in dependency list.")
  | some pkgName => do
    let validName ← validatePackageName pkgName
    let validSpec ← validateVersionSpecifier p.2
    pure ⟨validName, validSpec⟩

def mentions (packages : List PackageItem) : List Mention :=
  packages.filterMap fun item => (mention item).toOption

def Validates (packages : List PackageItem) : Prop := ∀ item ∈ packages, ∃ x, mention item = .ok x

def specsOf (k : String) (l : List Mention) : List (Option String) :=
  (l.filter fun x => x.key = k).map Mention.spec

def Agree (a b : Option String) : Prop := ∀ s t, a = some s → b = some t → s = t

instance (a b : Option String) : Decidable (Agree a b) :=
  decidable_of_iff (∀ s ∈ a, ∀ t ∈ b, s = t) ⟨fun h s t hs ht => h s hs t ht, fun h s hs t ht => h s t hs ht⟩

def Conflicting (l : List Mention) : Prop :=
  ∃ x ∈ l, ∃ y ∈ l, x.key = y.key ∧ ¬ Agree x.spec y.spec

lemma mention_inv {item : PackageItem} {x : Mention} (h : mention item = .ok x) :
    ∃ p pkgName, parts item = .ok p ∧ p.1.filter (fun name => name ≠ "") = some pkgName ∧
      validatePackageName pkgName = .ok x.name ∧ validateVersionSpecifier p.2 = .ok x.spec := by
  rw [mention] at h
  obtain ⟨p, hp, h⟩ := except_bind_ok h
  cases hf : p.1.filter fun name => name ≠ "" with
  | none =>
    rw [hf] at h
    cases h
  | some pkgName =>
    rw [hf] at h
    obtain ⟨name, hn, h⟩ := except_bind_ok h
    obtain ⟨spec, hs, h⟩ := except_bind_ok h
    cases h
    exact ⟨p, pkgName, hp, hf, hn, hs⟩

lemma resolveItem_mention {item : PackageItem} {x : Mention} (m : ResolvedMap) (h : mention item = .ok x) :
    (conflicts (m.lookup x.key) x.spec ≠ none ∧
        ∃ message, resolveItem m item = .error (.resolution message)) ∨
      conflicts (m.lookup x.key) x.spec = none ∧
        resolveItem m item = .ok (setItem x.key x.resolved m) := by
  obtain ⟨p, pkgName, hp, hf, hn, hs⟩ := mention_inv h
  exact resolveItem_parts m hp hf hn hs

lemma lookup_setItem_self (k : String) (v : Resolved) (m : ResolvedMap) :
    (setItem k v m).lookup k = some v := by
  induction m with
  | nil => simp [setItem]
  | cons x m ih =>
    rw [setItem]
    split
    · exact List.lookup_cons_self
    · next hk =>
      have hb : (k == x.1) = false := beq_false_of_ne fun h => hk h.symm
      rw [List.lookup_cons, hb]
      exact ih

lemma lookup_setItem_other {j k : String} (h : j ≠ k) (v : Resolved) (m : ResolvedMap) :
    (setItem k v m).lookup j = m.lookup j := by
  induction m with
  | nil => simp [setItem, h]
  | cons x m ih =>
    obtain ⟨i, r⟩ := x
    rw [setItem]
    split
    · next hk =>
      obtain rfl : i = k := hk
      have hb : (j == i) = false := beq_false_of_ne h
      rw [List.lookup_cons, List.lookup_cons, hb]
    · rw [List.lookup_cons, List.lookup_cons, ih]

lemma setItem_keys (k : String) (v : Resolved) (m : ResolvedMap) :
    (setItem k v m).map Prod.fst = if k ∈ m.map Prod.fst then m.map Prod.fst else m.map Prod.fst ++ [k] := by
  induction m with
  | nil => simp [setItem]
  | cons x m ih =>
    rw [setItem]
    by_cases hx : x.1 = k
    · rw [if_pos hx, List.map_cons, List.map_cons, hx, if_pos List.mem_cons_self]
    · have hk : k ≠ x.1 := fun h => hx h.symm
      rw [if_neg hx, List.map_cons, List.map_cons, ih]
      by_cases hm : k ∈ m.map Prod.fst
      · rw [if_pos hm, if_pos (List.mem_cons_of_mem _ hm)]
      · have hn : k ∉ x.1 :: m.map Prod.fst := by
          intro hc
          exact (List.mem_cons.mp hc).elim hk hm
        rw [if_neg hm, if_neg hn, List.cons_append]

lemma eraseDups_concat (l : List String) (k : String) :
    (l ++ [k]).eraseDups = if k ∈ l then l.eraseDups else l.eraseDups ++ [k] := by
  rw [List.eraseDups_append]
  by_cases h : k ∈ l <;> simp [List.removeAll, h, List.eraseDups_cons]

lemma lookup_of_mem {m : ResolvedMap} {p : String × Resolved} (hn : (m.map Prod.fst).Nodup) (h : p ∈ m) :
    m.lookup p.1 = some p.2 := by
  induction m with
  | nil => cases h
  | cons x m ih =>
    rw [List.map_cons, List.nodup_cons] at hn
    rcases List.mem_cons.mp h with rfl | h
    · exact List.lookup_cons_self
    · have hb : (p.1 == x.1) = false := by
        refine beq_false_of_ne fun he => hn.1 ?_
        rw [← he]
        exact List.mem_map_of_mem h
      rw [List.lookup_cons, hb]
      exact ih hn.2 h

structure Holds (l : List Mention) (m : ResolvedMap) : Prop where
  nodup : (m.map Prod.fst).Nodup
  keys : m.map Prod.fst = (l.map Mention.key).eraseDups
  lookup : ∀ k, m.lookup k = ((l.filter fun x => x.key = k).getLast?).map Mention.resolved

lemma holds_nil : Holds [] [] := ⟨.nil, rfl, fun _ => rfl⟩

lemma Holds.concat {l : List Mention} {m : ResolvedMap} (h : Holds l m) (x : Mention) :
    Holds (l ++ [x]) (setItem x.key x.resolved m) := by
  constructor
  case nodup =>
    rw [setItem_keys]
    split
    · exact h.nodup
    · next hn =>
      refine List.nodup_append.mpr ⟨h.nodup, List.nodup_singleton _, ?_⟩
      rintro a ha b hb rfl
      exact hn (List.mem_singleton.mp hb ▸ ha)
  case keys =>
    rw [setItem_keys, List.map_append, List.map_singleton, eraseDups_concat, h.keys]
    simp only [List.mem_eraseDups]
  case lookup =>
    intro k
    by_cases hk : k = x.key
    · subst hk
      rw [lookup_setItem_self]
      simp
    · rw [lookup_setItem_other hk, h.lookup]
      have hx : ¬ x.key = k := fun he => hk he.symm
      simp [List.filter_append, hx]

lemma specsOf_concat (l : List Mention) (x : Mention) (k : String) :
    specsOf k (l ++ [x]) = if x.key = k then specsOf k l ++ [x.spec] else specsOf k l := by
  by_cases h : x.key = k <;> simp [specsOf, List.filter_append, h]

def Smooth (l : List Mention) : Prop := ∀ k, (specsOf k l).IsChain Agree

lemma smooth_concat {l : List Mention} {x : Mention} :
    Smooth (l ++ [x]) ↔ Smooth l ∧ ∀ s ∈ (specsOf x.key l).getLast?, Agree s x.spec := by
  have hchain : ((specsOf x.key l) ++ [x.spec]).IsChain Agree ↔
      (specsOf x.key l).IsChain Agree ∧ ∀ s ∈ (specsOf x.key l).getLast?, Agree s x.spec := by
    rw [List.isChain_append]
    simp
  constructor
  · intro h
    have hx := h x.key
    rw [specsOf_concat, if_pos rfl, hchain] at hx
    refine ⟨fun k => ?_, hx.2⟩
    by_cases hk : x.key = k
    · exact hk ▸ hx.1
    · have hkeep := h k
      rwa [specsOf_concat, if_neg hk] at hkeep
  · rintro ⟨h, hx⟩ k
    by_cases hk : x.key = k
    · subst hk
      rw [specsOf_concat, if_pos rfl, hchain]
      exact ⟨h _, hx⟩
    · rw [specsOf_concat, if_neg hk]
      exact h k

lemma specsOf_getLast (k : String) (l : List Mention) :
    (specsOf k l).getLast? = ((l.filter fun x => x.key = k).getLast?).map Mention.spec := by
  rw [specsOf, List.getLast?_map]

lemma conflicts_none {l : List Mention} {m : ResolvedMap} (h : Holds l m) (x : Mention)
    (hl : ∀ y ∈ l, y.spec ≠ some "") :
    conflicts (m.lookup x.key) x.spec = none ↔ ∀ s ∈ (specsOf x.key l).getLast?, Agree s x.spec := by
  rw [h.lookup, specsOf_getLast]
  cases hlast : (l.filter fun y => y.key = x.key).getLast? with
  | none => simp [conflicts]
  | some y =>
    have hy : y.spec ≠ some "" := hl y (List.mem_filter.mp (List.mem_of_getLast? hlast)).1
    cases hx : x.spec with
    | none => simp [conflicts, Agree]
    | some t =>
      cases hs : y.spec with
      | none => simp [conflicts, Agree, Mention.resolved, hs]
      | some s =>
        have hne : s ≠ "" := fun he => hy (by rw [hs, he])
        simp [conflicts, Agree, Mention.resolved, hs, hne]

lemma mention_spec {item : PackageItem} {x : Mention} (h : mention item = .ok x) : x.spec ≠ some "" := by
  intro he
  obtain ⟨p, pkgName, -, -, -, hs⟩ := mention_inv h
  rw [he] at hs
  obtain ⟨-, -, -, -, -, hv⟩ := validateVersionSpecifier_ok hs
  exact absurd hv (by decide)

lemma mention_mem {packages : List PackageItem} {x : Mention} (h : x ∈ mentions packages) :
    ∃ item, mention item = .ok x := by
  obtain ⟨item, -, hx⟩ := List.mem_filterMap.mp h
  cases hm : mention item with
  | error err =>
    rw [hm] at hx
    cases hx
  | ok y =>
    rw [hm] at hx
    exact ⟨item, by rw [hm, Option.some_inj.mp hx]⟩

lemma mentions_concat {packages : List PackageItem} {item : PackageItem} {x : Mention}
    (hx : mention item = .ok x) : mentions (packages ++ [item]) = mentions packages ++ [x] := by
  have ho : (mention item).toOption = some x := by
    rw [hx]
    rfl
  rw [mentions, List.filterMap_append, mentions]
  simp only [List.filterMap_cons, List.filterMap_nil, ho]

lemma mentions_cons {packages : List PackageItem} {item : PackageItem} {x : Mention}
    (hx : mention item = .ok x) : mentions (item :: packages) = x :: mentions packages := by
  have ho : (mention item).toOption = some x := by
    rw [hx]
    rfl
  rw [mentions, List.filterMap_cons, ho, mentions]

theorem resolves {packages : List PackageItem} (hv : Validates packages) :
    (¬ Smooth (mentions packages) ∧
        ∃ message, packages.foldlM resolveItem [] = .error (.resolution message)) ∨
      Smooth (mentions packages) ∧
        ∃ m, packages.foldlM resolveItem [] = .ok m ∧ Holds (mentions packages) m := by
  induction packages using List.reverseRecOn with
  | nil => exact Or.inr ⟨fun k => .nil, [], rfl, holds_nil⟩
  | append_singleton packages item ih =>
    obtain ⟨x, hx⟩ := hv item (List.mem_append_right _ List.mem_cons_self)
    rw [mentions_concat hx, smooth_concat, List.foldlM_append]
    rcases ih fun i hi => hv i (List.mem_append_left _ hi) with ⟨hs, message, he⟩ | ⟨hs, m, he, hm⟩
    · refine Or.inl ⟨fun h => hs h.1, message, ?_⟩
      rw [he]
      rfl
    · have hspecs : ∀ y ∈ mentions packages, y.spec ≠ some "" := by
        intro y hy
        obtain ⟨i, hi⟩ := mention_mem hy
        exact mention_spec hi
      rw [he, except_ok_bind, List.foldlM_cons]
      rcases resolveItem_mention m hx with ⟨hc, message, hr⟩ | ⟨hc, hr⟩
      · refine Or.inl ⟨fun h => hc ((conflicts_none hm x hspecs).mpr h.2), message, ?_⟩
        rw [hr]
        rfl
      · refine Or.inr ⟨⟨hs, (conflicts_none hm x hspecs).mp hc⟩, _, ?_, hm.concat x⟩
        rw [hr]
        rfl

structure FollowsSpecification (packages : List PackageItem) : Prop where
  refuses : (∃ message, resolveRequirements packages = .error (.resolution message)) ↔
    Conflicting (mentions packages)
  resolves : ¬ Conflicting (mentions packages) → ∃ rs, resolveRequirements packages = .ok rs ∧
    rs.map (fun r => canonicalName r.packageName) = ((mentions packages).map Mention.key).eraseDups ∧
    ∀ r ∈ rs, (∀ s, some s ∈ specsOf (canonicalName r.packageName) (mentions packages) →
        r.versionSpecifier = s) ∧
      ((∀ s ∈ specsOf (canonicalName r.packageName) (mentions packages), s = none) →
        r.versionSpecifier = "")

def LastCarries (l : List Mention) : Prop :=
  ∀ k s, some s ∈ specsOf k l → (specsOf k l).getLast? = some (some s)

lemma mem_specsOf {k : String} {l : List Mention} {s : Option String} :
    s ∈ specsOf k l ↔ ∃ x ∈ l, x.key = k ∧ x.spec = s := by
  simp only [specsOf, List.mem_map, List.mem_filter, decide_eq_true_eq, and_assoc]

lemma smooth_of_not_conflicting {l : List Mention} (h : ¬ Conflicting l) : Smooth l := by
  intro k
  apply List.Pairwise.isChain
  refine List.pairwise_of_forall_mem_list fun a ha b hb => ?_
  obtain ⟨x, hx, hxk, rfl⟩ := mem_specsOf.mp ha
  obtain ⟨y, hy, hyk, rfl⟩ := mem_specsOf.mp hb
  by_contra hxy
  exact h ⟨x, hx, y, hy, hxk.trans hyk.symm, hxy⟩

lemma LastCarries.not_conflicting {l : List Mention} (h : LastCarries l) : ¬ Conflicting l := by
  rintro ⟨x, hx, y, hy, hxy, hne⟩
  apply hne
  intro s t hs ht
  have hlast := h x.key s (mem_specsOf.mpr ⟨x, hx, rfl, hs⟩)
  rw [h x.key t (mem_specsOf.mpr ⟨y, hy, hxy.symm, ht⟩)] at hlast
  exact (Option.some_inj.mp (Option.some_inj.mp hlast)).symm

lemma Holds.entry {l : List Mention} {m : ResolvedMap} (h : Holds l m) {p : String × Resolved} (hp : p ∈ m) :
    canonicalName p.2.packageName = p.1 ∧
      (specsOf p.1 l).getLast?.map (fun s => s.getD "") = some p.2.versionSpecifier := by
  have hl := lookup_of_mem h.nodup hp
  rw [h.lookup] at hl
  obtain ⟨x, hx, hr⟩ := Option.map_eq_some_iff.mp hl
  have hk : x.key = p.1 := of_decide_eq_true (List.mem_filter.mp (List.mem_of_getLast? hx)).2
  rw [← hr, specsOf_getLast, hx]
  exact ⟨hk, rfl⟩

lemma Holds.names {l : List Mention} {m : ResolvedMap} (h : Holds l m) :
    (m.map Prod.snd).map (fun r => canonicalName r.packageName) = (l.map Mention.key).eraseDups := by
  rw [← h.keys, List.map_map]
  exact List.map_congr_left fun p hp => (h.entry hp).1

lemma FollowsSpecification.lastCarries {packages : List PackageItem} {m : ResolvedMap}
    (h : FollowsSpecification packages) (hr : resolveRequirements packages = .ok (m.map Prod.snd))
    (hm : Holds (mentions packages) m) : LastCarries (mentions packages) := by
  intro k s hk
  have hc : ¬ Conflicting (mentions packages) := by
    intro hc
    obtain ⟨message, herr⟩ := h.refuses.mpr hc
    rw [hr] at herr
    cases herr
  obtain ⟨rs, hrs, -, hspec⟩ := h.resolves hc
  rw [hr] at hrs
  obtain rfl := Except.ok.inj hrs
  obtain ⟨x, hx, rfl, hxs⟩ := mem_specsOf.mp hk
  have hkey : x.key ∈ m.map Prod.fst := by
    rw [hm.keys, List.mem_eraseDups]
    exact List.mem_map_of_mem hx
  obtain ⟨p, hp, hpk⟩ := List.mem_map.mp hkey
  obtain ⟨hname, hlast⟩ := hm.entry hp
  rw [hpk] at hname hlast
  have hver := (hspec p.2 (List.mem_map_of_mem hp)).1 s (by rw [hname]; exact hk)
  obtain ⟨t, ht, hts⟩ := Option.map_eq_some_iff.mp hlast
  have hne : s ≠ "" := by
    rintro rfl
    obtain ⟨i, hi⟩ := mention_mem hx
    exact mention_spec hi hxs
  rw [ht]
  cases t with
  | none => exact absurd (hver.symm.trans hts.symm) hne
  | some t => exact congrArg (fun u => some (some u)) (hts.trans hver)

lemma LastCarries.follows {packages : List PackageItem} {m : ResolvedMap}
    (h : LastCarries (mentions packages)) (hr : resolveRequirements packages = .ok (m.map Prod.snd))
    (hm : Holds (mentions packages) m) : FollowsSpecification packages := by
  have hc := h.not_conflicting
  refine ⟨⟨fun ⟨message, herr⟩ => ?_, fun hc' => absurd hc' hc⟩, fun _ => ⟨_, hr, hm.names, ?_⟩⟩
  · rw [hr] at herr
    cases herr
  · intro r hmem
    obtain ⟨p, hp, rfl⟩ := List.mem_map.mp hmem
    obtain ⟨hname, hlast⟩ := hm.entry hp
    obtain ⟨t, ht, hts⟩ := Option.map_eq_some_iff.mp hlast
    rw [hname]
    constructor
    · intro s hk
      rw [h p.1 s hk] at ht
      obtain rfl := Option.some_inj.mp ht
      exact hts.symm
    · intro hnone
      rw [hnone t (List.mem_of_getLast? ht)] at hts
      exact hts.symm

/-- The resolver does what it is specified to do, except where a specifier is lost: a later mention
without one overwrites it, and hides it from the conflicts after that. -/
theorem follows_specification_iff {packages : List PackageItem} (hv : Validates packages) :
    FollowsSpecification packages ↔ ¬ Smooth (mentions packages) ∨ LastCarries (mentions packages) := by
  rcases resolves hv with ⟨hs, message, he⟩ | ⟨hs, m, he, hm⟩
  · have hr : resolveRequirements packages = .error (.resolution message) := by
      rw [resolveRequirements, he]
      rfl
    have hc : Conflicting (mentions packages) := by
      by_contra hc
      exact hs (smooth_of_not_conflicting hc)
    exact ⟨fun _ => Or.inl hs, fun _ => ⟨⟨fun _ => hc, fun _ => ⟨message, hr⟩⟩, fun hn => absurd hc hn⟩⟩
  · have hr : resolveRequirements packages = .ok (m.map Prod.snd) := by
      rw [resolveRequirements, he]
      rfl
    constructor
    · intro hf
      exact Or.inr (hf.lastCarries hr hm)
    · rintro (hn | hl)
      · exact absurd hs hn
      · exact hl.follows hr hm

def pinned : PackageItem := .entry (some "pandas") (some "==2.2.3")
def unpinned : PackageItem := .entry (some "Pandas") none

lemma mention_pinned : mention pinned = .ok ⟨"pandas", some "==2.2.3"⟩ := by
  decide +kernel

lemma mention_unpinned : mention unpinned = .ok ⟨"Pandas", none⟩ := by
  decide +kernel

lemma pinned_validate : Validates [unpinned, pinned] := by
  intro item hi
  rcases List.mem_cons.mp hi with rfl | hi
  · exact ⟨_, mention_unpinned⟩
  · rw [List.mem_singleton.mp hi]
    exact ⟨_, mention_pinned⟩

theorem pinned_follows : FollowsSpecification [unpinned, pinned] := by
  apply (follows_specification_iff pinned_validate).mpr
  apply Or.inr
  intro k s hs
  have hm : mentions [unpinned, pinned] = [⟨"Pandas", none⟩, ⟨"pandas", some "==2.2.3"⟩] := by
    rw [mentions_cons mention_unpinned, mentions_cons mention_pinned, mentions, List.filterMap_nil]
  rw [hm] at hs ⊢
  have hk : "pandas" = k ∧ s = "==2.2.3" := by
    obtain ⟨x, hx, rfl, hxs⟩ := mem_specsOf.mp hs
    rcases List.mem_cons.mp hx with rfl | hx
    · cases hxs
    · obtain rfl := List.mem_singleton.mp hx
      exact ⟨by decide +kernel, (Option.some_inj.mp hxs).symm⟩
  obtain ⟨rfl, rfl⟩ := hk
  decide +kernel

theorem specifier_lost : ¬ ∀ packages, Validates packages → FollowsSpecification packages := by
  intro h
  have hv : Validates [pinned, unpinned] := by
    intro item hi
    apply pinned_validate item
    simpa [or_comm] using hi
  have hm : mentions [pinned, unpinned] = [⟨"pandas", some "==2.2.3"⟩, ⟨"Pandas", none⟩] := by
    rw [mentions_cons mention_pinned, mentions_cons mention_unpinned, mentions, List.filterMap_nil]
  have hr : resolveRequirements [pinned, unpinned] = .ok [⟨"Pandas", "", "Pandas"⟩] := by
    decide +kernel
  have hc : ¬ Conflicting (mentions [pinned, unpinned]) := by
    rw [hm]
    rintro ⟨x, hx, y, hy, -, hne⟩
    simp only [List.mem_cons, List.not_mem_nil, or_false] at hx hy
    rcases hx with rfl | rfl <;> rcases hy with rfl | rfl <;> exact hne (by decide +kernel)
  obtain ⟨rs, hrs, -, hspec⟩ := (h _ hv).resolves hc
  rw [hr] at hrs
  obtain rfl := Except.ok.inj hrs
  have hlost := (hspec _ List.mem_cons_self).1 "==2.2.3" (by rw [hm]; decide +kernel)
  exact absurd hlost (by decide)

end DependencyResolver

end NotebookExecution.Dependencies
