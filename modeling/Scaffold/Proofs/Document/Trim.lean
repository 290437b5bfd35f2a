import Scaffold.Document.Parse
import Scaffold.Proofs.Text.Trim
import Scaffold.Proofs.Yaml.Margin.Steps

/-!
# Directive blocks and trimming

A directive block is trimmed before it is read as YAML, and to YAML blanks can have a meaning.
Those in front of the first line indent it, and the other lines are then indented more than it.
Those behind the last one belong to a block scalar there, unless it strips them. And some of what
is trimmed, such as a no-break space, is no blank to YAML but a character of a scalar.

Apart from that a block that can be read keeps its meaning.

## Main definitions

* `Document.IsTrimmable` — a block of which trimming takes away nothing that means something

## Main results

* `Document.parseDirective_trim` — the directive of a block stays the same, and
  `Document.parseDirective_trim_fails` for blocks where it does not
-/

namespace Scaffold

namespace Document

variable {block : Text}

/-- Trimming takes away nothing that means something to YAML: only blanks of YAML; in front whole
lines, behind which what was no byte order mark is not taken for one; and nothing from a block
scalar, except line ends that it strips. -/
structure IsTrimmable (block : Text) : Prop where
  leading : ∀ c ∈ Text.leadingBlanks block, Yaml.isGap c = true
  trailing : ∀ c ∈ Text.trailingBlanks block, Yaml.isGap c = true
  lines : ∀ c ∈ (Text.leadingBlanks block).getLast?, Yaml.isBreak c = true
  mark : Text.leadingBlanks block = [] ∨ (Yaml.Cursor.start (Text.trim block)).peek.toNat ≠ 0xFEFF
  scalar : ∀ chomping ∈ Yaml.blockAtEnd? block, Text.trailingBlanks block = [] ∨
    chomping = .strip ∧ ∀ c ∈ Text.trailingBlanks block, Yaml.isBreak c = true

theorem isBlank_of_isGap {c : Char} (h : Yaml.isGap c = true) : Text.isBlank c = true :=
  List.all_eq_true.mp (by decide : Yaml.gaps.all Text.isBlank = true) c (Yaml.mem_gaps_of_isGap h)

theorem isGap_eq_false {c : Char} (h : Text.isBlank c = false) : Yaml.isGap c = false :=
  Bool.eq_false_iff.mpr fun hgap => Bool.false_ne_true (h.symm.trans (isBlank_of_isGap hgap))

theorem tokens_trim (h : IsTrimmable block) {ts : List Yaml.Token}
    (hts : Yaml.tokens block = .ok ts) : Yaml.tokens (Text.trim block) = .ok ts := by
  have hsplit := Text.append_trim_append block
  refine Yaml.tokens_of_blanks h.leading h.lines h.trailing
    (fun c hc => isGap_eq_false (Text.not_isBlank_of_mem_head? c hc))
    (fun c hc => isGap_eq_false (Text.not_isBlank_of_mem_getLast? c hc)) h.mark ?_ ?_
  · rw [hsplit]
    exact h.scalar
  · rw [hsplit]
    exact hts

theorem parseDirective_eq_ok_iff {d : Directive} :
    parseDirective block = .ok d ↔ ∃ label entries, Yaml.load block = .ok (.map label entries) ∧
      Directive.decode entries = .ok d := by
  unfold parseDirective
  constructor
  · intro hd
    split at hd
    · exact nomatch hd
    · exact nomatch hd
    · rename_i label entries hload
      split at hd
      · rename_i hdecode
        obtain rfl := Except.ok.inj hd
        exact ⟨label, entries, hload, hdecode⟩
      · exact nomatch hd
    · exact nomatch hd
  · rintro ⟨label, entries, hload, hdecode⟩
    rw [hload]
    dsimp only
    rw [hdecode]

/-- **The directive of a block** stays the same when the block is trimmed. -/
theorem parseDirective_trim (h : IsTrimmable block) {d : Directive}
    (hd : parseDirective block = .ok d) : parseDirective (Text.trim block) = .ok d := by
  obtain ⟨label, entries, hload, hdecode⟩ := parseDirective_eq_ok_iff.mp hd
  refine parseDirective_eq_ok_iff.mpr ⟨label, entries, ?_, hdecode⟩
  rw [Yaml.load] at hload ⊢
  cases hts : Yaml.tokens block with
  | error e =>
    rw [hts] at hload
    exact nomatch hload
  | ok ts =>
    rw [hts] at hload
    rw [tokens_trim h hts]
    exact hload

/-- A block with blank lines around it that ends in a block scalar. -/
def spacedBlock : Text := Text.of "\n  \n# c\nto: a\nmessage: |-\n  b\n\n  c\n\n"

theorem parseDirective_trim_spacedBlock :
    IsTrimmable spacedBlock ∧ Yaml.blockAtEnd? spacedBlock = some .strip ∧
      parseDirective (Text.trim spacedBlock) =
        .ok ⟨['a'], false, none, some (Text.of "b\n\nc"), []⟩ := by
  have hblock : Yaml.blockAtEnd? spacedBlock = some .strip := by decide +kernel
  have hlast : (Text.leadingBlanks spacedBlock).getLast? = some '\n' := by decide
  have htrimmable : IsTrimmable spacedBlock := by
    refine ⟨List.all_eq_true.mp (by decide), List.all_eq_true.mp (by decide), fun c hc => ?_,
      by decide, fun chomping hc => ?_⟩
    · obtain rfl := Option.some.inj (hlast.symm.trans hc)
      decide
    · obtain rfl := Option.some.inj (hblock.symm.trans hc)
      exact .inr ⟨rfl, List.all_eq_true.mp (by decide)⟩
  exact ⟨htrimmable, hblock, parseDirective_trim htrimmable (by decide +kernel)⟩

/-- A block that is indented as a whole, one that ends in a block scalar which keeps its last line
end, and one that ends with a no-break space. -/
theorem parseDirective_trim_fails :
    (parseDirective (Text.of "  to: a\n  message: b\n") =
        .ok ⟨['a'], false, none, some ['b'], []⟩ ∧
      parseDirective (Text.trim (Text.of "  to: a\n  message: b\n")) = .error .notYaml) ∧
    (parseDirective (Text.of "to: a\nmessage: |\n  b\n") =
        .ok ⟨['a'], false, none, some ['b', '\n'], []⟩ ∧
      parseDirective (Text.trim (Text.of "to: a\nmessage: |\n  b\n")) =
        .ok ⟨['a'], false, none, some ['b'], []⟩) ∧
    parseDirective (Text.of "to: a\u00a0") = .ok ⟨['a', '\u00a0'], false, none, none, []⟩ ∧
      parseDirective (Text.trim (Text.of "to: a\u00a0")) = .ok ⟨['a'], false, none, none, []⟩ := by
  decide +kernel

end Document

end Scaffold
