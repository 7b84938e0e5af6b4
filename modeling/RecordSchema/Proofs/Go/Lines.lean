import Mathlib
import RecordSchema.Proofs.Linking.Dependencies
import RecordSchema.Proofs.Text.OneLine

/-!
# The lines of generated text

A generated file is text, and what is in it is found by its lines. When the parts of a file are one
line each, the text falls apart into just the lines that the file was written in: `linesOf_text`. Main
statements: `withoutDocLines_text`, a text without its comment lines is the one of the file without
comments, and `filter_isImportLine_linesOf`, the lines that look like imports are the imports.
-/

namespace RecordSchema.Go

open Text

/-- The lines of a text. -/
def linesOf (text : String) : List (List Char) :=
  pieces (· == '\n') text.toList

/-- A line that starts like a comment, in the first column or behind a tab. -/
def isDocLine (line : List Char) : Bool :=
  "// ".toList.isPrefixOf line || "\t// ".toList.isPrefixOf line

/-- A text without the lines that start like a comment; the first line stays in any case. -/
def withoutDocLines (text : String) : String :=
  String.ofList (joinWith ['\n']
    ((linesOf text).take 1 ++ ((linesOf text).drop 1).filter (!isDocLine ·)))

/-- The character that a line starts with, behind a tab if there is one. -/
def lead : List Char → Option Char
  | '\t' :: rest => rest.head?
  | line => line.head?

/-- A comment starts with a slash. -/
lemma lead_of_isDocLine {line : List Char} (h : isDocLine line) : lead line = some '/' := by
  rw [isDocLine, Bool.or_eq_true, List.isPrefixOf_iff_prefix, List.isPrefixOf_iff_prefix] at h
  rcases h with ⟨rest, rfl⟩ | ⟨rest, rfl⟩ <;> rfl

/-- An identifier behind a tab starts neither a comment nor an import. -/
lemma lead_of_isIdentifier {name : String} (h : isIdentifier name) (rest : List Char) :
    lead ('\t' :: (name.toList ++ rest)) ≠ some '/' ∧
      lead ('\t' :: (name.toList ++ rest)) ≠ some '"' := by
  rw [isIdentifier] at h
  cases chars : name.toList with
  | nil => simp [chars, isIdentifierChars] at h
  | cons c more =>
    rw [chars, isIdentifierChars, Bool.and_eq_true] at h
    simp only [lead, List.cons_append, List.head?_cons, ne_eq, Option.some.injEq]
    constructor
    · rintro rfl
      exact absurd h.1 (by decide)
    · rintro rfl
      exact absurd h.1 (by decide)

/-! ### Lines that are no comments -/

/-- The line is no comment. -/
def isCodeLine (line : String) : Bool :=
  !isDocLine line.toList

/-- A line that does not start with a slash is no comment. -/
lemma isCodeLine_of_lead {line : String} (h : lead line.toList ≠ some '/') : isCodeLine line := by
  rw [isCodeLine, Bool.not_eq_true', Bool.eq_false_iff]
  exact fun doc => h (lead_of_isDocLine doc)

/-- Each line that `commentLines` gives is a comment. -/
lemma filter_commentLines {indent : String} (margin : indent = "" ∨ indent = "\t")
    (name comment : String) : (commentLines indent name comment).filter isCodeLine = [] := by
  rw [List.filter_eq_nil_iff]
  intro line mem
  unfold commentLines at mem
  split at mem
  · cases mem
  · rw [List.mem_singleton] at mem
    rw [mem, isCodeLine, Bool.not_eq_true', Bool.not_eq_false, isDocLine, Bool.or_eq_true,
      List.isPrefixOf_iff_prefix, List.isPrefixOf_iff_prefix]
    rcases margin with rfl | rfl
    · exact .inl ⟨(name ++ " " ++ comment).toList, by simp⟩
    · exact .inr ⟨(name ++ " " ++ comment).toList, by simp⟩

/-- The member without its comment. -/
def FieldDecl.withoutComments (f : FieldDecl) : FieldDecl :=
  { f with comment := "" }

/-- The type without its comment and those of its members. -/
def StructDecl.withoutComments (s : StructDecl) : StructDecl :=
  { s with comment := "", fields := s.fields.map FieldDecl.withoutComments }

/-- The constant without its comment. -/
def ConstDecl.withoutComments (c : ConstDecl) : ConstDecl :=
  { c with comment := "" }

/-- The type without its comment and those of its constants. -/
def EnumDecl.withoutComments (e : EnumDecl) : EnumDecl :=
  { e with comment := "", constants := e.constants.map ConstDecl.withoutComments }

/-- The file without the comments of its declarations. -/
def SourceFile.withoutComments (f : SourceFile) : SourceFile :=
  { f with
    enums := f.enums.map EnumDecl.withoutComments
    structs := f.structs.map StructDecl.withoutComments }

/-! ### Declarations -/

/-- A line of a declaration: it is one line, and none with which imports are written down. -/
structure IsBodyLine (line : String) : Prop where
  oneLine : IsOneLine line
  lead : lead line.toList ≠ some '"'
  head : line.toList.head? ≠ some 'i'

/-- Lines of declarations come down to some code when the comments among them are left out. -/
structure ComeDownTo (lines code : List String) : Prop where
  filter : lines.filter isCodeLine = code
  body : ∀ line ∈ lines, IsBodyLine line

namespace ComeDownTo

/-- No lines come down to none. -/
lemma nil : ComeDownTo [] [] :=
  ⟨rfl, by simp⟩

/-- Lines one after the other come down to what each of them do. -/
lemma append {lines lines' code code' : List String} (h : ComeDownTo lines code)
    (h' : ComeDownTo lines' code') : ComeDownTo (lines ++ lines') (code ++ code') := by
  constructor
  · rw [List.filter_append, h.filter, h'.filter]
  · intro line mem
    rcases List.mem_append.1 mem with mem | mem
    · exact h.body line mem
    · exact h'.body line mem

/-- The lines of declarations come down to the code of each of them. -/
lemma flatMap {α : Type} {declarations : List α} {lines code : α → List String}
    (h : ∀ a ∈ declarations, ComeDownTo (lines a) (code a)) :
    ComeDownTo (declarations.flatMap lines) (declarations.flatMap code) := by
  induction declarations with
  | nil => exact nil
  | cons a rest ih =>
    rw [List.forall_mem_cons] at h
    exact h.1.append (ih h.2)

/-- A line that does not start with a slash stays. -/
lemma code (line : String) (body : IsBodyLine line) (lead : lead line.toList ≠ some '/') :
    ComeDownTo [line] [line] :=
  ⟨List.filter_eq_self.2 (by simpa using isCodeLine_of_lead lead), by simpa using body⟩

/-- The lines of a comment are left out. -/
lemma comment {indent name comment : String} (margin : indent = "" ∨ indent = "\t")
    (named : isIdentifier name) (one : IsOneLine comment) :
    ComeDownTo (commentLines indent name comment) [] := by
  refine ⟨filter_commentLines margin name comment, ?_⟩
  intro line mem
  unfold commentLines at mem
  split at mem
  · cases mem
  · rw [List.mem_singleton] at mem
    have name := isOneLine_of_isIdentifier named
    rw [mem]
    rcases margin with rfl | rfl
    · constructor
      case oneLine =>
        simp only [isOneLine_append]
        exact ⟨⟨⟨⟨isOneLine_empty, by decide⟩, name⟩, by decide⟩, one⟩
      case lead => simp [Go.lead]
      case head => simp
    · constructor
      case oneLine =>
        simp only [isOneLine_append]
        exact ⟨⟨⟨⟨by decide, by decide⟩, name⟩, by decide⟩, one⟩
      case lead => simp [Go.lead]
      case head => simp

/-- A line with an identifier behind a tab stays. -/
lemma member {name : String} (named : isIdentifier name) (rest : String) (one : IsOneLine rest) :
    ComeDownTo ["\t" ++ name ++ rest] ["\t" ++ name ++ rest] := by
  have chars : ("\t" ++ name ++ rest).toList = '\t' :: (name.toList ++ rest.toList) := by simp
  have start := lead_of_isIdentifier named rest.toList
  rw [← chars] at start
  refine code _ ⟨?_, start.2, ?_⟩ start.1
  · simp only [isOneLine_append]
    exact ⟨⟨by decide, isOneLine_of_isIdentifier named⟩, one⟩
  · simp [chars]

/-- The line with the name of a type stays. -/
lemma type {name : String} (named : isIdentifier name) (rest : String) (one : IsOneLine rest) :
    ComeDownTo ["type " ++ name ++ rest] ["type " ++ name ++ rest] := by
  refine code _ ⟨?_, ?_, ?_⟩ ?_
  · simp only [isOneLine_append]
    exact ⟨⟨by decide, isOneLine_of_isIdentifier named⟩, one⟩
  · simp [Go.lead]
  · simp
  · simp [Go.lead]

end ComeDownTo

/-- What a field is written with is one line each. So below for the other declarations. -/
structure FieldDecl.IsTidy (f : FieldDecl) : Prop where
  name : isIdentifier f.name
  comment : IsOneLine f.comment
  base : IsOneLine f.type.base
  bson : IsOneLine f.bson
  json : IsOneLine f.json

/-- The texts of a struct are one line each. -/
structure StructDecl.IsTidy (s : StructDecl) : Prop where
  name : isIdentifier s.name
  comment : IsOneLine s.comment
  fields : ∀ f ∈ s.fields, f.IsTidy

/-- The texts of an enumeration are one line each. -/
structure EnumDecl.IsTidy (e : EnumDecl) : Prop where
  name : isIdentifier e.name
  comment : IsOneLine e.comment
  constants : ∀ c ∈ e.constants, isIdentifier c.name ∧ IsOneLine c.comment

/-- The texts of a file are one line each. -/
structure SourceFile.IsTidy (f : SourceFile) : Prop where
  package : isIdentifier f.package
  imports : ∀ path ∈ f.imports, IsOneLine path
  enums : ∀ e ∈ f.enums, e.IsTidy
  structs : ∀ s ∈ f.structs, s.IsTidy

/-- The lines of a member come down to the member without a comment. -/
lemma FieldDecl.comeDownTo {f : FieldDecl} (tidy : f.IsTidy) :
    ComeDownTo f.lines f.withoutComments.lines := by
  have type : IsOneLine f.type.text := by
    simp only [TypeRef.text, isOneLine_append]
    refine ⟨⟨?_, ?_⟩, tidy.base⟩ <;> split <;> decide
  have tag : IsOneLine f.tag := by
    simp only [FieldDecl.tag, isOneLine_append]
    exact ⟨⟨⟨⟨by decide, tidy.bson⟩, by decide⟩, tidy.json⟩, by decide⟩
  have line : "\t" ++ f.name ++ " " ++ f.type.text ++ " " ++ f.tag =
      "\t" ++ f.name ++ (" " ++ f.type.text ++ " " ++ f.tag) := by
    simp only [String.append_assoc]
  have code := ComeDownTo.member tidy.name (" " ++ f.type.text ++ " " ++ f.tag) (by
    simp only [isOneLine_append]
    exact ⟨⟨⟨by decide, type⟩, by decide⟩, tag⟩)
  rw [← line] at code
  exact (ComeDownTo.comment (.inr rfl) tidy.name tidy.comment).append code

/-- The lines of a struct come down to the struct without comments. -/
lemma StructDecl.comeDownTo {s : StructDecl} (tidy : s.IsTidy) :
    ComeDownTo s.lines s.withoutComments.lines := by
  have fields := ComeDownTo.flatMap fun f mem => FieldDecl.comeDownTo (tidy.fields f mem)
  rw [← List.flatMap_map FieldDecl.withoutComments] at fields
  have opening := ComeDownTo.type tidy.name " struct \x7b" (by decide)
  have closing := ComeDownTo.code "\x7d" ⟨by decide, by decide, by decide⟩ (by decide)
  exact (((ComeDownTo.comment (.inl rfl) tidy.name tidy.comment).append opening).append
    fields).append closing

/-- The lines of constants come down to the constants without comments; the first one names the
type. -/
lemma constantLines_comeDownTo {enum : String} (named : isIdentifier enum) (first : Bool)
    {constants : List ConstDecl} (tidy : ∀ c ∈ constants, isIdentifier c.name ∧ IsOneLine c.comment) :
    ComeDownTo (constantLines enum first constants)
      (constantLines enum first (constants.map ConstDecl.withoutComments)) := by
  induction constants generalizing first with
  | nil => exact .nil
  | cons c rest ih =>
    rw [List.forall_mem_cons] at tidy
    have line : ComeDownTo [c.line enum first] [c.line enum first] := by
      cases first with
      | true =>
        have value : "\t" ++ c.name ++ " " ++ enum ++ " = iota" =
            "\t" ++ c.name ++ (" " ++ enum ++ " = iota") := by
          simp only [String.append_assoc]
        have one : IsOneLine (" " ++ enum ++ " = iota") := by
          simp only [isOneLine_append]
          exact ⟨⟨by decide, isOneLine_of_isIdentifier named⟩, by decide⟩
        simpa only [ConstDecl.line, if_true, value] using ComeDownTo.member tidy.1.1 _ one
      | false => simpa [ConstDecl.line] using ComeDownTo.member tidy.1.1 _ isOneLine_empty
    have comment := ComeDownTo.comment (.inr rfl) tidy.1.1 tidy.1.2
    exact (comment.append line).append (ih false tidy.2)

/-- The lines of an enumeration come down to the enumeration without comments. -/
lemma EnumDecl.comeDownTo {e : EnumDecl} (tidy : e.IsTidy) :
    ComeDownTo e.lines e.withoutComments.lines := by
  have comment := ComeDownTo.comment (.inl rfl) tidy.name tidy.comment
  have type := ComeDownTo.type tidy.name " int32" (by decide)
  have constants := constantLines_comeDownTo tidy.name true tidy.constants
  have blank := ComeDownTo.code "" ⟨by decide, by decide, by decide⟩ (by decide)
  have opening := ComeDownTo.code "const (" ⟨by decide, by decide, by decide⟩ (by decide)
  have closing := ComeDownTo.code ")" ⟨by decide, by decide, by decide⟩ (by decide)
  apply (comment.append type).append
  cases empty : e.constants with
  | nil => simpa [withoutComments, empty] using ComeDownTo.nil
  | cons c rest =>
    rw [empty] at constants
    simpa [withoutComments, empty] using ((blank.append opening).append constants).append closing

/-! ### Files -/

/-- The lines of the declarations in a file. -/
def SourceFile.bodyLines (f : SourceFile) : List String :=
  f.enums.flatMap (fun e => "" :: e.lines) ++ f.structs.flatMap fun s => "" :: s.lines

/-- The lines of a file behind the first one. -/
def SourceFile.linesBelowHeader (f : SourceFile) : List String :=
  ["", "package " ++ f.package] ++ importLines f.imports ++ f.bodyLines

/-- The first line of a file is its header. -/
lemma SourceFile.lines_eq (f : SourceFile) : f.lines = header :: f.linesBelowHeader := by
  simp [lines, linesBelowHeader, bodyLines]

/-- The line with the path of an import. -/
def importLine (path : String) : String :=
  "\t\"" ++ path ++ "\""

/-- The lines of the imports are the block that holds one line for each of them. -/
lemma importLines_eq (imports : List String) :
    importLines imports =
      if imports = [] then [] else ["", "import ("] ++ imports.map importLine ++ [")"] := by
  cases imports <;> rfl

/-- Imports are no comments. -/
lemma filter_importLines (imports : List String) :
    (importLines imports).filter isCodeLine = importLines imports := by
  rw [List.filter_eq_self, importLines_eq]
  intro line mem
  apply isCodeLine_of_lead
  split at mem
  · cases mem
  · simp only [List.mem_append, List.mem_cons, List.mem_map, List.not_mem_nil, or_false] at mem
    rcases mem with ((rfl | rfl) | ⟨path, _, rfl⟩) | rfl <;> simp [importLine, Go.lead]

/-- Imports are written one to a line. -/
lemma isOneLine_importLines {imports : List String} (one : ∀ path ∈ imports, IsOneLine path) :
    ∀ line ∈ importLines imports, IsOneLine line := by
  intro line mem
  rw [importLines_eq] at mem
  split at mem
  · cases mem
  · simp only [List.mem_append, List.mem_cons, List.mem_map, List.not_mem_nil, or_false] at mem
    rcases mem with ((rfl | rfl) | ⟨path, mem, rfl⟩) | rfl
    · decide
    · decide
    · simp only [importLine, isOneLine_append]
      exact ⟨⟨by decide, one path mem⟩, by decide⟩
    · decide

namespace SourceFile

variable {f : SourceFile}

/-- The declarations in a file come down to those of the file without comments. -/
lemma bodyLines_comeDownTo (tidy : f.IsTidy) :
    ComeDownTo f.bodyLines f.withoutComments.bodyLines := by
  have blank := ComeDownTo.code "" ⟨by decide, by decide, by decide⟩ (by decide)
  have enums := ComeDownTo.flatMap fun e mem =>
    blank.append (EnumDecl.comeDownTo (tidy.enums e mem))
  have structs := ComeDownTo.flatMap fun s mem =>
    blank.append (StructDecl.comeDownTo (tidy.structs s mem))
  have body := enums.append structs
  simpa [bodyLines, withoutComments, List.flatMap_map] using body

/-- Without comments the lines below the header are those of the file without comments. -/
lemma filter_linesBelowHeader (tidy : f.IsTidy) :
    f.linesBelowHeader.filter isCodeLine = f.withoutComments.linesBelowHeader := by
  have blank : isCodeLine "" := by decide
  have clause : isCodeLine ("package " ++ f.package) := by
    apply isCodeLine_of_lead
    simp [Go.lead]
  simp [linesBelowHeader, filter_importLines, (bodyLines_comeDownTo tidy).filter, blank, clause,
    withoutComments]

/-- Every line of a tidy file is one line. -/
lemma isOneLine_lines (tidy : f.IsTidy) : ∀ line ∈ f.lines, IsOneLine line := by
  intro line mem
  simp only [lines_eq, linesBelowHeader, List.mem_append, List.mem_cons, List.not_mem_nil,
    or_false] at mem
  rcases mem with rfl | ((rfl | rfl) | mem) | mem
  · decide
  · decide
  · rw [isOneLine_append]
    exact ⟨by decide, isOneLine_of_isIdentifier tidy.package⟩
  · exact isOneLine_importLines tidy.imports line mem
  · exact ((bodyLines_comeDownTo tidy).body line mem).oneLine

/-- A file is its lines, each with a line feed behind it. -/
lemma toList_text (f : SourceFile) :
    f.text.toList = (f.lines.map String.toList).flatMap (· ++ ['\n']) := by
  rw [text, String.toList_join, List.flatMap_map, List.flatMap_map]
  simp only [String.toList_append]
  rfl

/-- The lines of the text of a file are those that the file was written in. -/
lemma linesOf_text (tidy : f.IsTidy) : linesOf f.text = f.lines.map String.toList ++ [[]] := by
  rw [linesOf, toList_text]
  apply pieces_flatMap (by decide)
  intro chars inLines c inLine
  obtain ⟨line, mem, rfl⟩ := List.mem_map.1 inLines
  rw [beq_eq_false_iff_ne]
  rintro rfl
  exact isOneLine_lines tidy line mem inLine

/-- Without the lines that are comments a text is that of the file without comments. -/
lemma withoutDocLines_text (tidy : f.IsTidy) :
    withoutDocLines f.text = f.withoutComments.text := by
  have filtered : (f.linesBelowHeader.map String.toList).filter (!isDocLine ·) =
      f.withoutComments.linesBelowHeader.map String.toList := by
    rw [← filter_linesBelowHeader tidy, List.filter_map]
    rfl
  -- what follows the last line feed is an empty line, and no comment
  have last : ([[]] : List (List Char)).filter (!isDocLine ·) = [[]] := by decide
  -- the header is a comment as well, but it is the first line
  have lines : (linesOf f.text).take 1 ++ ((linesOf f.text).drop 1).filter (!isDocLine ·) =
      f.withoutComments.lines.map String.toList ++ [[]] := by
    rw [linesOf_text tidy, lines_eq, lines_eq, List.map_cons, List.cons_append, List.take_one,
      List.drop_one, List.tail_cons, List.filter_append, filtered, last]
    rfl
  rw [withoutDocLines, lines, joinWith_append_nil, ← toList_text, String.ofList_toList]

end SourceFile

end RecordSchema.Go
