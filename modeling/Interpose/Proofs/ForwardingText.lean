import Interpose.Proofs.Text.Cutting
import Interpose.Source.ClassSource

/-! # The text of forwarding methods

A forwarding method is written in five lines: its definition, the hook that loads the collection,
the two lines of the hook that takes note of a change, and the call of the wrapped collection. The
text of a generated class is that of its opening, its imports and its constructor, and then these
lines, method by method. When no name or hint breaks a line, the methods can be read off the text
again: those are the constructor and the forwarding methods, and there are no others.
-/
namespace Interpose

set_option autoImplicit false

/-! ## Lines -/

namespace Text

/-- The lines of a text in which each line ends with a line feed. -/
def lines (text : String) : List String :=
  (cutAll '\n' text.toList).dropLast.map String.ofList

def joinLines (lines : List String) : String :=
  String.join (lines.map (· ++ "\n"))

theorem joinLines_append (ls ms : List String) :
    joinLines (ls ++ ms) = joinLines ls ++ joinLines ms := by
  rw [joinLines, List.map_append, String.join_append, joinLines, joinLines]

theorem joinLines_cons (l : String) (ls : List String) :
    joinLines (l :: ls) = l ++ "\n" ++ joinLines ls := by
  rw [joinLines, List.map_cons, String.join_cons, joinLines]

theorem joinLines_singleton (l : String) : joinLines [l] = l ++ "\n" := by
  rw [joinLines_cons]
  exact String.append_empty

theorem lines_joinLines {ls : List String} (h : ∀ l ∈ ls, '\n' ∉ l.toList) :
    lines (joinLines ls) = ls := by
  induction ls with
  | nil => rfl
  | cons l ls ih =>
    obtain ⟨hFirst, hOthers⟩ := List.forall_mem_cons.1 h
    have hChars : (joinLines (l :: ls)).toList = l.toList ++ '\n' :: (joinLines ls).toList := by
      simp [joinLines_cons]
    have hSome : cutAll '\n' (joinLines ls).toList ≠ [] := by
      obtain ⟨part, parts, hCut, -⟩ := join_cutAll '\n' (joinLines ls).toList
      simp [hCut]
    rw [lines, hChars, cutAll_append, cutAll_of_not_mem hFirst, List.singleton_append,
      List.dropLast_cons_of_ne_nil hSome, List.map_cons, ← lines, ih hOthers, String.ofList_toList]

end Text

/-! ## Forwarding methods -/

/-- The lines of a method that runs the hooks and then calls the wrapped collection. -/
def forwardingLines (isAsync : Bool) (name parameters result words arguments : String) :
    List String :=
  [(if isAsync then "    async def " else "    def ") ++ name ++ "(" ++ parameters ++ ")" ++ result
      ++ ":",
    "        self.initialize()",
    "        if self.needs_scheduling_for_synchronization():",
    "            self.changed()",
    "        " ++ words ++ "self._coll." ++ name ++ "(" ++ arguments ++ ")"]

namespace ForwardingMethod

def resultText (f : ForwardingMethod) : String :=
  match f.returnHint with
  | some hint => if hint.text = "" then "" else " -> " ++ hint.text
  | none => ""

/-- What stands before the call in its line. -/
def words (f : ForwardingMethod) : String :=
  (if f.returnsResult then "return " else "") ++ (if f.isAsync then "await " else "")

def argumentsText (f : ForwardingMethod) : String :=
  ", ".intercalate (f.arguments.map CallArgument.text)

theorem lines_eq (f : ForwardingMethod) :
    f.lines = forwardingLines f.isAsync f.name (declarationText f.declaration).text f.resultText
      f.words f.argumentsText := by
  simp only [lines, forwardingLines, words, argumentsText, String.append_assoc]
  rfl

theorem text_eq (f : ForwardingMethod) : f.text = "\n" ++ Text.joinLines f.lines :=
  rfl

end ForwardingMethod

/-! ## Generated classes -/

/-- Whether a line starts the definition of a method of a class. -/
def isDefinition (line : String) : Bool :=
  "    def ".toList.isPrefixOf line.toList || "    async def ".toList.isPrefixOf line.toList

/-- The methods that are defined in some lines: of each the line that starts its definition, with
the lines up to the next one. -/
def methodsIn : List String → List (List String)
  | [] => []
  | line :: lines =>
    if isDefinition line then
      (line :: lines.takeWhile fun other => !isDefinition other) :: methodsIn lines
    else methodsIn lines

theorem methodsIn_append_of_none {before : List String}
    (h : ∀ line ∈ before, isDefinition line = false) (lines : List String) :
    methodsIn (before ++ lines) = methodsIn lines := by
  induction before with
  | nil => rfl
  | cons line before ih =>
    obtain ⟨hFirst, hOthers⟩ := List.forall_mem_cons.1 h
    rw [List.cons_append, methodsIn, hFirst, if_neg Bool.false_ne_true, ih hOthers]

/-- Whether a block of lines is a single definition. -/
def IsBlock (block : List String) : Prop :=
  ∃ line lines, block = line :: lines ∧ isDefinition line = true ∧
    ∀ other ∈ lines, isDefinition other = false

theorem methodsIn_flatten {blocks : List (List String)} (h : ∀ block ∈ blocks, IsBlock block) :
    methodsIn blocks.flatten = blocks := by
  induction blocks with
  | nil => rfl
  | cons block blocks ih =>
    obtain ⟨⟨line, lines, rfl, hLine, hLines⟩, hOthers⟩ := List.forall_mem_cons.1 h
    have hEnds : ∀ other ∈ blocks.flatten.head?, isDefinition other = true := by
      intro other hMem
      cases blocks with
      | nil => cases hMem
      | cons next blocks =>
        obtain ⟨first, _, rfl, hFirst, -⟩ := h next (List.mem_cons_of_mem _ List.mem_cons_self)
        cases hMem
        exact hFirst
    have hTaken : (lines ++ blocks.flatten).takeWhile (fun other => !isDefinition other)
        = lines := by
      rw [List.takeWhile_append_of_pos fun other hMem => by rw [hLines other hMem, Bool.not_false]]
      cases hRest : blocks.flatten with
      | nil => rw [List.takeWhile_nil, List.append_nil]
      | cons other rest =>
        rw [List.takeWhile_cons_of_neg (by simp [hEnds other (by simp [hRest])]), List.append_nil]
    rw [List.flatten_cons, List.cons_append, methodsIn, hLine, if_pos rfl, hTaken,
      methodsIn_append_of_none hLines, ih hOthers]

theorem isBlock_forwardingLines (isAsync : Bool)
    (name parameters result words arguments : String) :
    IsBlock (forwardingLines isAsync name parameters result words arguments) := by
  refine ⟨_, _, rfl, ?_, ?_⟩
  · cases isAsync <;> simp [isDefinition, List.isPrefixOf]
  · simp [isDefinition, List.isPrefixOf]

namespace ClassSource

def openingLines : List String :=
  ["\"\"\"DO NOT EDIT THIS FILE - IT WAS CREATED BY THE PCGEN PERSISTENT COLLECTION GENERATOR\"\"\"",
   "", "from __future__ import annotations", "",
   "from typing import Any, Never, NoReturn, Self", ""]

def supportLines : List String :=
  ["from pcgen.persistent import (", "    BaseCollection,", "    DocumentManager,",
   "    PersistentCollectionMixin,", "    UnitOfWork,", "    original_default,", ")"]

def constructorLines : List String :=
  ["    def __init__(self, coll: BaseCollection, dm: DocumentManager, uow: UnitOfWork) -> None:",
   "        self._coll = coll", "        self._dm = dm", "        self._uow = uow"]

/-- What stands before the constructor. -/
def headLines (source : ClassSource) : List String :=
  openingLines ++ source.imports.map ("import " ++ ·) ++ supportLines ++
    ["", "", "class " ++ source.className ++ "(PersistentCollectionMixin, " ++ source.target ++ "):",
     "    \"\"\"Persistent collection decorating " ++ source.target ++ ".\"\"\"", ""]

theorem text_eq (source : ClassSource) :
    source.text = Text.joinLines (source.headLines ++
      (constructorLines :: source.methods.map ForwardingMethod.lines).flatten) := by
  have hOpening : opening = Text.joinLines openingLines := by decide +kernel
  have hSupport : supportImport = Text.joinLines supportLines := by decide +kernel
  have hConstructor : initializer = Text.joinLines constructorLines := by decide +kernel
  have hImports : String.join (source.imports.map fun module => "import " ++ module ++ "\n")
      = Text.joinLines (source.imports.map ("import " ++ ·)) := by
    rw [Text.joinLines, List.map_map]
    rfl
  have hMethods : String.join (source.methods.flatMap fun m => m.lines.map (· ++ "\n"))
      = Text.joinLines (source.methods.map ForwardingMethod.lines).flatten := by
    rw [Text.joinLines, List.map_flatten, List.map_map, List.flatMap_def]
    rfl
  have hMiddle : Text.joinLines ["", "",
        "class " ++ source.className ++ "(PersistentCollectionMixin, " ++ source.target ++ "):",
        "    \"\"\"Persistent collection decorating " ++ source.target ++ ".\"\"\"", ""]
      = "\n" ++ "\n"
        ++ ("class " ++ source.className ++ "(PersistentCollectionMixin, " ++ source.target ++ "):\n")
        ++ ("    \"\"\"Persistent collection decorating " ++ source.target ++ ".\"\"\"\n") ++ "\n" := by
    apply String.toList_injective
    simp [Text.joinLines]
  rw [headLines, List.flatten_cons, Text.joinLines_append, Text.joinLines_append,
    Text.joinLines_append, Text.joinLines_append, Text.joinLines_append, hMiddle, ← hOpening,
    ← hImports, ← hSupport, ← hConstructor, ← hMethods, text]
  simp only [String.append_assoc]

/-- Whether nothing that a source is written with breaks a line. -/
structure KeepsLines (source : ClassSource) : Prop where
  className : '\n' ∉ source.className.toList
  target : '\n' ∉ source.target.toList
  imports : ∀ module ∈ source.imports, '\n' ∉ module.toList
  methods : ∀ f ∈ source.methods, ∀ line ∈ f.lines, '\n' ∉ line.toList

/-- The methods that are read off the text are the constructor and the forwarding methods. -/
theorem methodsIn_text {source : ClassSource} (h : source.KeepsLines) :
    methodsIn (Text.lines source.text)
      = constructorLines :: source.methods.map ForwardingMethod.lines := by
  have hOpening : ∀ line ∈ openingLines, '\n' ∉ line.toList ∧ isDefinition line = false := by
    decide +kernel
  have hSupport : ∀ line ∈ supportLines, '\n' ∉ line.toList ∧ isDefinition line = false := by
    decide +kernel
  have hConstructor : ∀ line ∈ constructorLines, '\n' ∉ line.toList := by decide +kernel
  have hHead : ∀ line ∈ source.headLines, '\n' ∉ line.toList ∧ isDefinition line = false := by
    simp only [headLines, List.mem_append, List.mem_map]
    rintro line (((hMem | ⟨module, hMem, rfl⟩) | hMem) | hMem)
    · exact hOpening line hMem
    · simp [isDefinition, List.isPrefixOf, h.imports module hMem]
    · exact hSupport line hMem
    · simp only [List.mem_cons, List.not_mem_nil, or_false] at hMem
      rcases hMem with rfl | rfl | rfl | rfl | rfl <;>
        simp [isDefinition, List.isPrefixOf, h.className, h.target]
  have hBlocks : ∀ block ∈ constructorLines :: source.methods.map ForwardingMethod.lines,
      IsBlock block := by
    refine List.forall_mem_cons.2 ⟨⟨_, _, rfl, by decide +kernel, by decide +kernel⟩, ?_⟩
    intro block hMem
    obtain ⟨f, -, rfl⟩ := List.mem_map.1 hMem
    rw [f.lines_eq]
    exact isBlock_forwardingLines ..
  have hKept : ∀ line ∈ source.headLines ++
      (constructorLines :: source.methods.map ForwardingMethod.lines).flatten,
        '\n' ∉ line.toList := by
    intro line hMem
    rcases List.mem_append.1 hMem with hMem | hMem
    · exact (hHead line hMem).1
    · obtain ⟨block, hBlock, hMem⟩ := List.mem_flatten.1 hMem
      rcases List.mem_cons.1 hBlock with rfl | hBlock
      · exact hConstructor line hMem
      · obtain ⟨f, hMethod, rfl⟩ := List.mem_map.1 hBlock
        exact h.methods f hMethod line hMem
  rw [source.text_eq, Text.lines_joinLines hKept,
    methodsIn_append_of_none fun line hMem => (hHead line hMem).2, methodsIn_flatten hBlocks]

end ClassSource
end Interpose
