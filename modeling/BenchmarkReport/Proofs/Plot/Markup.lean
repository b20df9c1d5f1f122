/-
This file reads the tags of a document of vector graphics. No label and no value of an attribute can
pass for a tag.
-/

import BenchmarkReport.Plot.Markup
import BenchmarkReport.Proofs.Number.Integers
import Mathlib.Data.List.TakeWhile

namespace BenchmarkReport.Plot

open Markup Number Text

namespace Markup

/-- The tags of a document, without the brackets around them. -/
def tags : List Char → List (List Char)
  | [] => []
  | '<' :: later => later.takeWhile (· != '>') :: tags later
  | _ :: later => tags later

/-- The name of a tag ends where a blank or a slash follows. -/
def tagName (inner : List Char) : List Char :=
  inner.takeWhile fun symbol => symbol != ' ' && symbol != '/'

/-- The tags of a document that have a name. -/
def tagsNamed (name : String) (document : List Char) : List (List Char) :=
  (tags document).filter fun inner => tagName inner == name.toList

/-- A text without the brackets of a tag. -/
def IsBare (text : List Char) : Prop := '<' ∉ text ∧ '>' ∉ text

instance (text : List Char) : Decidable (IsBare text) := inferInstanceAs (Decidable (_ ∧ _))

/-- The tags of a text stay what they are, whatever follows it. -/
def IsClosed (text : List Char) : Prop :=
  ∀ rest, tags (text ++ rest) = tags text ++ tags rest

section Bare

variable {first second text : List Char}

theorem IsBare.append (bareFirst : IsBare first) (bareSecond : IsBare second) :
    IsBare (first ++ second) := by
  unfold IsBare at *
  simp_all

theorem isBare_flatMap {Item : Type} {items : List Item} {write : Item → List Char}
    (bare : ∀ item ∈ items, IsBare (write item)) : IsBare (items.flatMap write) := by
  constructor
  · intro member
    obtain ⟨item, listed, member⟩ := List.mem_flatMap.mp member
    exact (bare item listed).1 member
  · intro member
    obtain ⟨item, listed, member⟩ := List.mem_flatMap.mp member
    exact (bare item listed).2 member

/-- An escaped text has no brackets, so that it holds no tag. -/
theorem isBare_escape (text : List Char) : IsBare (escape text) := by
  refine isBare_flatMap fun symbol _ => ?_
  unfold escapeSymbol
  split <;> first | decide | simp_all [IsBare, eq_comm]

theorem isBare_attribute {part : Attribute} (bare : IsBare part.name.toList) :
    IsBare part.text := by
  have blank : IsBare [' '] := by decide
  have opening : IsBare ['=', '"'] := by decide
  exact (((blank.append bare).append opening).append (isBare_escape _)).append (by decide)

/-- A text without special symbols stays as it is. -/
theorem escape_eq_self (plain : ∀ symbol ∈ text, escapeSymbol symbol = [symbol]) :
    escape text = text := by
  induction text with
  | nil => rfl
  | cons symbol later inductionHypothesis =>
      have rest := inductionHypothesis fun other member => plain other (List.mem_cons_of_mem _ member)
      unfold escape at *
      rw [List.flatMap_cons, plain symbol List.mem_cons_self, rest]
      rfl

theorem escape_integerText (value : Int) : escape (integerText value) = integerText value := by
  apply escape_eq_self
  intro symbol member
  have kind : isDigit symbol = true ∨ symbol = '-' := by
    unfold integerText at member
    split at member
    · rcases List.mem_cons.mp member with minus | member
      · exact .inr minus
      · exact .inl ((isNumeral_digits _).2 symbol member)
    · exact .inl ((isNumeral_digits _).2 symbol member)
  rcases kind with digit | rfl
  · unfold escapeSymbol
    split <;> first | rfl | exact absurd digit (by decide)
  · rfl

end Bare

section Tags

variable {text rest : List Char}

theorem tags_cons {symbol : Char} (different : symbol ≠ '<') :
    tags (symbol :: text) = tags text := by
  rw [tags]
  exact different

theorem tags_bare (bare : '<' ∉ text) : tags (text ++ rest) = tags rest := by
  induction text with
  | nil => rfl
  | cons symbol later inductionHypothesis =>
      obtain ⟨different, bareLater⟩ := not_or.mp (mt List.mem_cons.mpr bare)
      rw [List.cons_append, tags_cons (Ne.symm different), inductionHypothesis bareLater]

theorem tags_bracketed (bare : IsBare text) :
    tags ('<' :: (text ++ '>' :: rest)) = text :: tags rest := by
  have all : ∀ symbol ∈ text, (symbol != '>') = true := fun symbol member =>
    bne_iff_ne.mpr fun same => bare.2 (same ▸ member)
  have behind : tags ('>' :: rest) = tags rest := rfl
  rw [tags, List.takeWhile_append_of_pos all, tags_bare bare.1, behind]
  simp

/-- The tag between its brackets. -/
def tagInner (name : String) (attributes : List Attribute) (closing : Closing) : List Char :=
  let ending := match closing with
    | .own => ['/']
    | .later => []
  name.toList ++ attributes.flatMap Attribute.text ++ ending

variable {name : String} {attributes : List Attribute} {closing : Closing}

theorem tags_tag (bareName : IsBare name.toList)
    (bare : ∀ known ∈ attributes.map Attribute.name, IsBare known.toList) :
    tags (tag name attributes closing ++ rest) = tagInner name attributes closing :: tags rest := by
  have bareAttributes : IsBare (attributes.flatMap Attribute.text) :=
    isBare_flatMap fun part listed => isBare_attribute (bare _ (List.mem_map_of_mem listed))
  have bareInner : IsBare (tagInner name attributes closing) := by
    refine (bareName.append bareAttributes).append ?_
    cases closing <;> decide
  have written : tag name attributes closing ++ rest =
      '<' :: (tagInner name attributes closing ++ '>' :: rest) := by
    unfold tag tagInner
    cases closing <;> simp
  rw [written, tags_bracketed bareInner]

theorem tags_closingTag (bareName : IsBare name.toList) :
    tags (closingTag name ++ rest) = ('/' :: name.toList) :: tags rest := by
  have slash : IsBare ['/'] := by decide
  have bareInner : IsBare ('/' :: name.toList) := slash.append bareName
  have written : closingTag name ++ rest = '<' :: (('/' :: name.toList) ++ '>' :: rest) := by
    simp [closingTag]
  rw [written, tags_bracketed bareInner]

theorem tagName_tagInner (plain : ' ' ∉ name.toList ∧ '/' ∉ name.toList) :
    tagName (tagInner name attributes closing) = name.toList := by
  have all : ∀ symbol ∈ name.toList, (symbol != ' ' && symbol != '/') = true := by
    intro symbol member
    have noBlank : symbol ≠ ' ' := ne_of_mem_of_not_mem member plain.1
    have noSlash : symbol ≠ '/' := ne_of_mem_of_not_mem member plain.2
    simp [noBlank, noSlash]
  have ends : tagName (attributes.flatMap Attribute.text ++ match closing with
      | .own => ['/']
      | .later => []) = [] := by
    cases attributes with
    | nil => cases closing <;> rfl
    | cons part others => rfl
  unfold tagName at *
  unfold tagInner
  dsimp only
  rw [List.append_assoc, List.takeWhile_append_of_pos all, ends, List.append_nil]

end Tags

section Documents

variable {lines : List (List Char)} {name other : String} {attributes : List Attribute}
  {closing : Closing}

theorem isClosed_tag (bareName : IsBare name.toList)
    (bare : ∀ known ∈ attributes.map Attribute.name, IsBare known.toList) :
    tags (tag name attributes closing) = [tagInner name attributes closing] ∧
      IsClosed (tag name attributes closing) := by
  have alone : tags (tag name attributes closing) = [tagInner name attributes closing] := by
    rw [← List.append_nil (tag name attributes closing), tags_tag bareName bare]
    rfl
  refine ⟨alone, fun rest => ?_⟩
  rw [tags_tag bareName bare, alone]
  rfl

theorem isClosed_closingTag (bareName : IsBare name.toList) :
    tags (closingTag name) = ['/' :: name.toList] ∧ IsClosed (closingTag name) := by
  have alone : tags (closingTag name) = ['/' :: name.toList] := by
    rw [← List.append_nil (closingTag name), tags_closingTag bareName]
    rfl
  refine ⟨alone, fun rest => ?_⟩
  rw [tags_closingTag bareName, alone]
  rfl

theorem isClosed_escape (text : List Char) : tags (escape text) = [] ∧ IsClosed (escape text) := by
  have alone : tags (escape text) = [] := by
    rw [← List.append_nil (escape text), tags_bare (isBare_escape text).1]
    rfl
  refine ⟨alone, fun rest => ?_⟩
  rw [tags_bare (isBare_escape text).1, alone]
  rfl

/-- The tags of a document are those of its lines, if no tag stands across two lines. -/
theorem tags_unlines (closed : ∀ line ∈ lines, IsClosed line) :
    tags (unlines lines) = lines.flatMap tags := by
  induction lines with
  | nil => rfl
  | cons line others inductionHypothesis =>
      have behind : tags ('\n' :: unlines others) = tags (unlines others) := rfl
      rw [unlines_cons, closed line List.mem_cons_self, behind, List.flatMap_cons,
        inductionHypothesis fun other member => closed other (List.mem_cons_of_mem _ member)]

theorem tagsNamed_unlines (closed : ∀ line ∈ lines, IsClosed line) :
    tagsNamed name (unlines lines) = lines.flatMap (tagsNamed name) := by
  unfold tagsNamed
  rw [tags_unlines closed, List.filter_flatMap]

/-- A tag is found by its name and by no other one. -/
theorem tagsNamed_tag (bareName : IsBare name.toList)
    (plain : ' ' ∉ name.toList ∧ '/' ∉ name.toList)
    (bare : ∀ known ∈ attributes.map Attribute.name, IsBare known.toList) :
    tagsNamed other (tag name attributes closing) =
      if name = other then [tagInner name attributes closing] else [] := by
  unfold tagsNamed
  rw [(isClosed_tag bareName bare).1, List.filter_cons, List.filter_nil, tagName_tagInner plain]
  simp [String.toList_inj]

/-- The tag that closes another one has no name. -/
theorem tagsNamed_closingTag (bareName : IsBare name.toList) (present : other ≠ "") :
    tagsNamed other (closingTag name) = [] := by
  unfold tagsNamed
  rw [(isClosed_closingTag bareName).1, List.filter_cons, List.filter_nil]
  have noName : tagName ('/' :: name.toList) = [] := rfl
  rw [noName, if_neg]
  rw [beq_iff_eq]
  intro same
  exact present (String.toList_injective same.symm)

theorem tagsNamed_escape (text : List Char) : tagsNamed other (escape text) = [] := by
  unfold tagsNamed
  rw [(isClosed_escape text).1]
  rfl

end Documents

end Markup

end BenchmarkReport.Plot
