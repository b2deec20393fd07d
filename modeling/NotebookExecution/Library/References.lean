import Mathlib.Tactic

/-! Rows that refer to rows. A deletion also deletes the rows that refer to what it deletes by a
declared reference, those that refer to these, and so on; it knows nothing of the other references. -/

namespace NotebookExecution.Library.References

structure Schema (ρ α : Type) where
  address : ρ → Option α
  parent : ρ → Option α
  Declared : ρ → Prop
  alike : ∀ {r r' a}, a ∈ address r → a ∈ address r' → (Declared r ↔ Declared r')

variable {ρ α : Type} (S : Schema ρ α) {s t u : Set ρ} {r new old : ρ} {a : α}

namespace Schema

def Resolves (s : Set ρ) : Prop := ∀ r ∈ s, ∀ a ∈ S.parent r, ∃ p ∈ s, a ∈ S.address p

def Consistent (s : Set ρ) : Prop :=
  ∀ r ∈ s, ∀ r' ∈ s, ∀ a ∈ S.address r, a ∈ S.address r' → S.parent r = S.parent r'

inductive Grows (s : Set ρ) : Set ρ → Prop
  | refl : Grows s s
  | insert {t : Set ρ} (r : ρ) (h : Grows s t) (free : ∀ a ∈ S.address r, ∀ p ∈ t, a ∉ S.address p)
      (parent : ∀ a ∈ S.parent r, ∃ p ∈ t, a ∈ S.address p) : Grows s (Insert.insert r t)
  | rewrite {t u : Set ρ} (old new : ρ) (h : Grows s t) (mem : old ∈ t)
      (address : S.address new = S.address old) (parent : S.parent new = S.parent old) (there : new ∈ u)
      (keeps : ∀ r ∈ t, r = old ∨ r ∈ u) (adds : ∀ r ∈ u, r = new ∨ r ∈ t) : Grows s u

variable {S}

lemma Grows.persists (h : S.Grows s t) (hs : ∃ p ∈ s, a ∈ S.address p) : ∃ p ∈ t, a ∈ S.address p := by
  induction h with
  | refl => exact hs
  | insert r h free parent ih =>
    obtain ⟨p, hp, ha⟩ := ih
    exact ⟨p, Or.inr hp, ha⟩
  | rewrite old new h mem address parent there keeps adds ih =>
    obtain ⟨p, hp, ha⟩ := ih
    cases keeps p hp with
    | inl he => exact ⟨new, there, by rw [address, ← he]; exact ha⟩
    | inr hu => exact ⟨p, hu, ha⟩

lemma Grows.resolves (h : S.Grows s t) (hs : S.Resolves s) : S.Resolves t := by
  induction h with
  | refl => exact hs
  | @insert t r h free parent ih =>
    intro c hc a ha
    have hp : ∃ p ∈ t, a ∈ S.address p := by
      cases hc with
      | inl he => exact parent a (he ▸ ha)
      | inr hm => exact ih c hm a ha
    exact persists (.insert r .refl free parent) hp
  | @rewrite t u old new h mem address parent there keeps adds ih =>
    intro c hc a ha
    have hp : ∃ p ∈ t, a ∈ S.address p := by
      cases adds c hc with
      | inl he =>
        apply ih old mem a
        rw [← parent, ← he]
        exact ha
      | inr hm => exact ih c hm a ha
    exact persists (.rewrite old new .refl mem address parent there keeps adds) hp

lemma Grows.consistent (h : S.Grows s t) (hs : S.Consistent s) : S.Consistent t := by
  induction h with
  | refl => exact hs
  | @insert t r h free parent ih =>
    rintro c (rfl | hc) c' (rfl | hc') a ha ha'
    · rfl
    · exact absurd ha' (free a ha c' hc')
    · exact absurd ha (free a ha' c hc)
    · exact ih c hc c' hc' a ha ha'
  | @rewrite t u old new h mem address parent there keeps adds ih =>
    have back (c : ρ) (hc : c ∈ u) :
        ∃ b, b ∈ t ∧ S.address b = S.address c ∧ S.parent b = S.parent c := by
      cases adds c hc with
      | inl he => exact ⟨old, mem, by rw [he, address], by rw [he, parent]⟩
      | inr hm => exact ⟨c, hm, rfl, rfl⟩
    intro c hc c' hc' a ha ha'
    obtain ⟨b, hb, haddress, hparent⟩ := back c hc
    obtain ⟨b', hb', haddress', hparent'⟩ := back c' hc'
    rw [← hparent, ← hparent']
    exact ih b hb b' hb' a (haddress ▸ ha) (haddress' ▸ ha')

inductive Gone (S : Schema ρ α) (s : Set ρ) (a : α) : ρ → Prop
  | self {r : ρ} (h : a ∈ S.address r) : Gone S s a r
  | child {r p : ρ} {b : α} (declared : S.Declared r) (parent : b ∈ S.parent r) (mem : p ∈ s)
      (address : b ∈ S.address p) (h : Gone S s a p) : Gone S s a r

def delete (S : Schema ρ α) (a : α) (s : Set ρ) : Set ρ := {r ∈ s | ¬ Gone S s a r}

def Unreferred (S : Schema ρ α) (s : Set ρ) (a : α) : Prop :=
  ∀ r ∈ s, ¬ Gone S s a r → ¬ S.Declared r → ∀ b ∈ S.parent r, ∀ p ∈ s, b ∈ S.address p → ¬ Gone S s a p

lemma Consistent.delete (hs : S.Consistent s) : S.Consistent (S.delete a s) :=
  fun c hc c' hc' => hs c hc.1 c' hc'.1

lemma gone_iff : Gone S s a r ↔
    a ∈ S.address r ∨ S.Declared r ∧ ∃ b ∈ S.parent r, ∃ p ∈ s, b ∈ S.address p ∧ Gone S s a p := by
  constructor
  · intro h
    cases h with
    | self h => exact Or.inl h
    | child declared parent mem address h => exact Or.inr ⟨declared, _, parent, _, mem, address, h⟩
  · rintro (h | ⟨hd, b, hb, p, hp, hpb, h⟩)
    · exact .self h
    · exact .child hd hb hp hpb h

lemma Gone.alike {p p' : ρ} {b : α} (hs : S.Consistent s) (hp : p ∈ s) (hp' : p' ∈ s)
    (hb : b ∈ S.address p) (hb' : b ∈ S.address p') (h : Gone S s a p) : Gone S s a p' := by
  cases h with
  | self ha =>
    obtain rfl : a = b := Option.mem_unique ha hb
    exact .self hb'
  | child declared parent mem address h =>
    have hd : S.Declared p' := (S.alike hb hb').mp declared
    exact .child hd (hs p hp p' hp' b hb hb' ▸ parent) mem address h

theorem delete_resolves_iff (hs : S.Consistent s) (hr : S.Resolves s) :
    S.Resolves (S.delete a s) ↔ S.Unreferred s a := by
  constructor
  · intro h r hm hg _ b hb p hp hpb hgp
    obtain ⟨p', ⟨hp', hn⟩, hpb'⟩ := h r ⟨hm, hg⟩ b hb
    exact hn (hgp.alike hs hp hp' hpb hpb')
  · rintro h r ⟨hm, hg⟩ b hb
    obtain ⟨p, hp, hpb⟩ := hr r hm b hb
    refine ⟨p, ⟨hp, fun hgp => ?_⟩, hpb⟩
    by_cases hd : S.Declared r
    · exact hg (.child hd hb hp hpb hgp)
    · exact h r hm hg hd b hb p hp hpb hgp

end Schema

end NotebookExecution.Library.References
