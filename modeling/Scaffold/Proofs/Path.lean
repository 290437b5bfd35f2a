import Scaffold.Path
import Scaffold.Proofs.Text.Split

/-!
# The text of a path

A path is written and read back unchanged, so that whatever keeps files under the text of their
path keeps them under the path itself. A relative path that is looked up under another one is
written behind it, with a slash between the two.

## Main results

* `Path.ofText_text` — reading the text of a path gives the path
* `Path.text_under`, `Path.under_inj` — the text of a path under another, and what it determines
* `Path.isAbove_iff` — which paths are above others, by their texts
-/

namespace Scaffold

namespace Path

/-! ### Components -/

theorem partsOf_slash_cons (s : Text) : partsOf ('/' :: s) = partsOf s := by
  simp [partsOf, Text.splitOnChar]

/-- Components that are joined with slashes are read back. -/
theorem partsOf_join {parts : List Text} (h : ∀ part ∈ parts, IsComponent part) :
    partsOf (Text.join ['/'] parts) = parts := by
  cases parts with
  | nil => rfl
  | cons first rest =>
    rw [partsOf, Text.splitOnChar_join (List.cons_ne_nil _ _) fun part hp => (h part hp).2.2,
      List.filter_eq_self]
    intro part hp
    obtain ⟨hne, hdot, -⟩ := h part hp
    simp [hne, hdot]

theorem head?_join_ne_slash {parts : List Text} (h : ∀ part ∈ parts, IsComponent part) :
    (Text.join ['/'] parts).head? ≠ some '/' := by
  cases parts with
  | nil => simp [Text.join]
  | cons first rest =>
    obtain ⟨hne, -, hslash⟩ := h first List.mem_cons_self
    obtain ⟨c, tail, rfl⟩ := List.exists_cons_of_ne_nil hne
    have hc : c ≠ '/' := fun hc => hslash (hc ▸ List.mem_cons_self)
    cases rest <;> simpa [Text.join, List.intercalate_cons_cons] using hc

/-! ### Roots -/

theorem rootOf_eq_nil {s : Text} (h : s.head? ≠ some '/') : rootOf s = [] := by
  cases s with
  | nil => rfl
  | cons c rest =>
    have hc : c ≠ '/' := fun hc => h (hc ▸ rfl)
    simp [rootOf, hc]

theorem rootOf_slash_cons {s : Text} (h : s.head? ≠ some '/') : rootOf ('/' :: s) = ['/'] := by
  rw [rootOf]
  · rintro tail rfl
    exact h rfl
  · rintro tail rfl
    exact h rfl

theorem rootOf_slash_slash_cons {s : Text} (h : s.head? ≠ some '/') :
    rootOf ('/' :: '/' :: s) = ['/', '/'] := by
  rw [rootOf]
  rintro tail rfl
  exact h rfl

/-- **A path is read back from its text.** -/
@[simp] theorem ofText_text (p : Path) : ofText p.text = p := by
  obtain ⟨root, parts, hroot, hparts⟩ := p
  have hhead := head?_join_ne_slash hparts
  have hread := partsOf_join hparts
  simp only [roots, List.mem_cons, List.not_mem_nil, or_false] at hroot
  rcases hroot with rfl | rfl | rfl
  · cases parts with
    | nil => rfl
    | cons first rest => simp [ofText, text, rootOf_eq_nil hhead, hread]
  · simp [ofText, text, rootOf_slash_cons hhead, partsOf_slash_cons, hread]
  · simp [ofText, text, rootOf_slash_slash_cons hhead, partsOf_slash_cons, hread]

/-! ### Paths under paths -/

/-- A relative path with a component: it leads somewhere else than where it is looked up. -/
def Descends (p : Path) : Prop := p.isAbsolute = false ∧ p.parts ≠ []

instance (p : Path) : Decidable p.Descends := inferInstanceAs (Decidable (_ ∧ _))

variable {base p q : Path}

theorem text_injective (h : p.text = q.text) : p = q := by
  rw [← ofText_text p, ← ofText_text q, h]

theorem text_ne_nil (p : Path) : p.text ≠ [] := by
  intro h
  have hread := ofText_text p
  rw [h] at hread
  rw [← hread] at h
  exact absurd h (by decide)

theorem root_eq_nil (h : p.isAbsolute = false) : p.root = [] := by
  simpa [isAbsolute] using h

theorem text_of_parts_ne_nil (h : p.parts ≠ []) : p.text = p.root ++ Text.join ['/'] p.parts := by
  simp [text, h]

/-- The one relative path without a component is where it is looked up. -/
theorem text_of_parts_eq_nil (hrel : p.isAbsolute = false) (h : p.parts = []) : p.text = ['.'] := by
  simp [text, h, root_eq_nil hrel]

theorem text_ne_dot (h : p.Descends) : p.text ≠ ['.'] := by
  intro hdot
  have hread := ofText_text p
  rw [hdot] at hread
  exact h.2 (hread ▸ rfl)

theorem parts_under (h : p.isAbsolute = false) : (base.under p).parts = base.parts ++ p.parts := by
  simp [under, h]

theorem root_under (h : p.isAbsolute = false) : (base.under p).root = base.root := by
  simp [under, h]

theorem text_under (hbase : base.parts ≠ []) (h : p.Descends) :
    (base.under p).text = base.text ++ '/' :: p.text := by
  obtain ⟨hrel, hparts⟩ := h
  have hne : (base.under p).parts ≠ [] := by simp [parts_under hrel, hbase]
  rw [text_of_parts_ne_nil hne, text_of_parts_ne_nil hbase, text_of_parts_ne_nil hparts,
    parts_under hrel, root_under hrel, root_eq_nil hrel, Text.join_append hbase hparts]
  simp

/-- Looked up at a path without components stays what it is. -/
theorem under_of_parts_eq_nil (hrel : p.isAbsolute = false) (h : p.parts = []) :
    base.under p = base := by
  cases base
  simp [under, hrel, h]

theorem under_inj (hp : p.isAbsolute = false) (hq : q.isAbsolute = false) :
    base.under p = base.under q ↔ p = q := by
  refine ⟨fun h => ?_, fun h => h ▸ rfl⟩
  have hparts := congrArg Path.parts h
  rw [parts_under hp, parts_under hq, List.append_cancel_left_eq] at hparts
  cases p
  cases q
  simp_all [isAbsolute]

/-! ### Paths above paths -/

/-- The first path leads to a directory on the way of the second one. -/
def IsAbove (p q : Path) : Prop := p.parts <+: q.parts ∧ p.parts ≠ q.parts

instance (p q : Path) : Decidable (p.IsAbove q) := inferInstanceAs (Decidable (_ ∧ _))

theorem IsAbove.trans {r : Path} (h : p.IsAbove q) (h' : q.IsAbove r) : p.IsAbove r := by
  refine ⟨h.1.trans h'.1, fun heq => h.2 ?_⟩
  exact h.1.eq_of_length_le (heq ▸ h'.1.length_le)

theorem text_of_descends (h : p.Descends) : p.text = Text.join ['/'] p.parts := by
  rw [text_of_parts_ne_nil h.2, root_eq_nil h.1, List.nil_append]

/-- A path is above those whose text goes on behind its own with a slash. -/
theorem isAbove_iff (hp : p.Descends) (hq : q.Descends) :
    p.IsAbove q ↔ p.text ++ ['/'] <+: q.text := by
  have hslash : ∀ part ∈ p.parts, '/' ∉ part := fun part hpart => (p.isComponent part hpart).2.2
  have hslash' : ∀ part ∈ q.parts, '/' ∉ part := fun part hpart => (q.isComponent part hpart).2.2
  rw [text_of_descends hp, text_of_descends hq]
  constructor
  · rintro ⟨⟨more, hmore⟩, hne⟩
    have hmore' : more ≠ [] := by
      rintro rfl
      exact hne (by rw [← hmore, List.append_nil])
    rw [← hmore, Text.join_append hp.2 hmore']
    exact List.prefix_append _ _
  · rintro ⟨rest, hrest⟩
    rw [List.append_assoc, List.singleton_append] at hrest
    have hsplit := Text.splitOnChar_join_append_cons hp.2 hslash rest
    rw [hrest, Text.splitOnChar_join hq.2 hslash'] at hsplit
    refine ⟨hsplit ▸ List.prefix_append _ _, fun heq => ?_⟩
    rw [heq] at hsplit
    exact Text.splitOnChar_ne_nil _ _ (List.append_right_eq_self.mp hsplit.symm)

/-- The path that the first components of a path lead to. -/
def upTo (p : Path) (front : List Text) (h : front <+: p.parts) : Path where
  root := p.root
  parts := front
  root_mem := p.root_mem
  isComponent part hpart := p.isComponent part (h.subset hpart)

/-- The text of a path with a component does not end with a slash. -/
theorem getLast?_text_ne_slash (h : p.parts ≠ []) : p.text.getLast? ≠ some '/' := by
  obtain ⟨front, last, hsplit⟩ : ∃ front last, p.parts = front ++ [last] :=
    ⟨_, _, (List.dropLast_concat_getLast h).symm⟩
  have hlast : IsComponent last := p.isComponent last (by simp [hsplit])
  obtain ⟨hne, -, hslash⟩ := hlast
  have htext : ∃ before, p.text = before ++ last := by
    rw [text_of_parts_ne_nil h, hsplit]
    by_cases hfront : front = []
    · exact ⟨p.root, by simp [hfront, Text.join]⟩
    · rw [Text.join_append hfront (List.cons_ne_nil _ _)]
      exact ⟨p.root ++ (Text.join ['/'] front ++ ['/']), by simp [Text.join]⟩
  obtain ⟨before, htext⟩ := htext
  rw [htext, List.getLast?_append, List.getLast?_eq_some_getLast hne, Option.some_or]
  exact fun heq => hslash (Option.some.inj heq ▸ List.getLast_mem hne)

end Path

end Scaffold
