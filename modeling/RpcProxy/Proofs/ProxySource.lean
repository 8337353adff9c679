import RpcProxy.ProxySource
import RpcProxy.Proofs.GoName
import RpcProxy.Proofs.Signature
import RpcProxy.Proofs.Text

/-!
# Laws of generated text

A Go file consists of a head that ends with the import block and of a body that declares the
services. Every reference in a signature stands in the line that declares the method in its proxy.
-/

namespace RpcProxy

/-- The references in what is declared for a service. -/
def ServiceProxy.references (proxy : ServiceProxy) : List Reference :=
  proxy.register :: proxy.unimplemented :: proxy.methods.flatMap Signature.references

def ProxySource.references (source : ProxySource) : List Reference :=
  source.services.flatMap ServiceProxy.references

/-- Whether a text stands in a line behind a letter that neither continues a name nor selects from
one. -/
def IsWritten (text line : String) : Prop :=
  ∃ (before : String) (mark : Char) (after : String),
    line = before ++ String.singleton mark ++ text ++ after ∧
      GoName.isNameLetter mark = false ∧ mark ≠ '.'

/-- The reference stands in the line: its name, behind the qualifier and a dot if it has one. -/
def Reference.StandsIn (reference : Reference) (line : String) : Prop :=
  match reference.qualifier with
  | none => IsWritten reference.name line
  | some qualifier => IsWritten (qualifier ++ "." ++ reference.name) line

/-- The letters behind which generated text refers to something. -/
def Reference.marks : List Char := ['\t', ' ', '(', '*']

theorem Reference.isNameLetter_of_mem_marks {mark : Char} (member : mark ∈ marks) :
    GoName.isNameLetter mark = false ∧ mark ≠ '.' := by
  simp only [marks, List.mem_cons, List.not_mem_nil, or_false] at member
  rcases member with rfl | rfl | rfl | rfl <;> decide +kernel

variable {reference : Reference} {line : String}

theorem Reference.standsIn_iff : reference.StandsIn line ↔ IsWritten reference.text line := by
  rw [StandsIn, text]
  cases reference.qualifier <;> rfl

theorem Reference.standsIn_of_mark (reference : Reference) (mark : Char)
    (isMark : mark ∈ Reference.marks) (before after : String) :
    reference.StandsIn (before ++ String.singleton mark ++ reference.text ++ after) := by
  rw [standsIn_iff]
  exact ⟨before, mark, after, rfl, isNameLetter_of_mem_marks isMark⟩

theorem Reference.StandsIn.within (stands : reference.StandsIn line) (before after : String) :
    reference.StandsIn (before ++ line ++ after) := by
  rw [standsIn_iff] at stands ⊢
  obtain ⟨inside, mark, behind, rfl, ends⟩ := stands
  exact ⟨before ++ inside, mark, behind ++ after, by simp only [String.append_assoc], ends⟩

private theorem GoType.standsIn (type : GoType) (mark : Char) (isMark : mark ∈ Reference.marks) :
    type.reference.StandsIn (String.singleton mark ++ type.text) := by
  cases type with
  | plain reference => simpa [text] using reference.standsIn_of_mark mark isMark "" ""
  | pointer reference =>
      have star := reference.standsIn_of_mark '*' (by decide) (String.singleton mark) ""
      rwa [String.append_empty, String.append_assoc] at star

private theorem exists_intercalate_eq (separator : String) {part : String} {parts : List String}
    (member : part ∈ parts) :
    ∃ before after, String.intercalate separator parts = before ++ part ++ after ∧
      (before = "" ∨ ∃ front, before = front ++ separator) := by
  induction parts with
  | nil => simp at member
  | cons first rest induction =>
      cases rest with
      | nil =>
          obtain rfl : part = first := by simpa using member
          exact ⟨"", "", by simp, .inl rfl⟩
      | cons next rest =>
          rw [String.intercalate_cons_cons]
          rcases List.mem_cons.mp member with rfl | later
          · exact ⟨"", separator ++ String.intercalate separator (next :: rest),
              by simp [String.append_assoc], .inl rfl⟩
          · obtain ⟨before, after, equal, ending⟩ := induction later
            refine ⟨first ++ separator ++ before, after, by simp [equal, String.append_assoc],
              .inr ?_⟩
            rcases ending with rfl | ⟨front, rfl⟩
            · exact ⟨first, by simp⟩
            · exact ⟨first ++ separator ++ front, by simp [String.append_assoc]⟩

namespace Signature

variable {signature : Signature}

private theorem parameterText_eq : signature.parameterText = String.intercalate ", "
    (signature.parameters.map fun parameter => parameter.1 ++ " " ++ parameter.2.text) := rfl

private theorem standsIn_parameterText {parameter : String × GoType}
    (member : parameter ∈ signature.parameters) :
    parameter.2.reference.StandsIn signature.parameterText := by
  have written : parameter.1 ++ " " ++ parameter.2.text ∈
      signature.parameters.map fun parameter => parameter.1 ++ " " ++ parameter.2.text :=
    List.mem_map.mpr ⟨parameter, member, rfl⟩
  obtain ⟨before, after, equal, _⟩ := exists_intercalate_eq ", " written
  have stands := (parameter.2.standsIn ' ' (by decide)).within
    (before ++ parameter.1) after
  rw [parameterText_eq, equal]
  simpa [String.append_assoc] using stands

private theorem standsIn_resultText {type : GoType} (member : type ∈ signature.results) :
    type.reference.StandsIn (" " ++ signature.resultText) := by
  rw [resultText]
  split
  · rename_i only results
    obtain rfl : type = only := by simpa [results] using member
    exact type.standsIn ' ' (by decide)
  · obtain ⟨before, after, equal, ending⟩ := exists_intercalate_eq ", "
      (List.mem_map_of_mem (f := GoType.text) member)
    rw [equal]
    rcases ending with rfl | ⟨front, rfl⟩
    · have stands := (type.standsIn '(' (by decide)).within " " (after ++ ")")
      simpa [String.append_assoc] using stands
    · have stands := (type.standsIn ' ' (by decide)).within
        (" (" ++ front ++ ",") (after ++ ")")
      have comma : ", " = "," ++ String.singleton ' ' := rfl
      have parenthesis : " (" = " " ++ "(" := rfl
      rw [comma]
      rw [parenthesis] at stands
      simpa only [String.append_assoc] using stands

/-- Whatever a signature refers to stands in its text. -/
theorem standsIn_text (member : reference ∈ signature.references) :
    reference.StandsIn signature.text := by
  rw [text]
  rcases List.mem_append.mp member with inParameters | inResults
  · obtain ⟨parameter, isParameter, rfl⟩ := List.mem_map.mp inParameters
    have stands := (standsIn_parameterText isParameter).within "(" (") " ++ signature.resultText)
    simpa only [String.append_assoc] using stands
  · obtain ⟨type, isResult, rfl⟩ := List.mem_map.mp inResults
    have stands := (standsIn_resultText isResult).within ("(" ++ signature.parameterText ++ ")") ""
    have parenthesis : ") " = ")" ++ " " := rfl
    rw [parenthesis]
    simpa only [String.append_assoc, String.append_empty] using stands

end Signature

namespace ProxySource

def importLine (line : Import) : String :=
  "\t" ++ line.qualifier ++ " \"" ++ line.path ++ "\""

/-- The lines of a file down to the import block, with the empty line behind it. -/
def head (source : ProxySource) : List String :=
  ["// Code generated by protoc-gen-grpcproxy. DO NOT EDIT.", "", "package " ++ source.packageName,
    "", "import ("] ++ source.imports.map importLine ++ [")", ""]

/-- The lines of a file behind the import block. -/
def body (source : ProxySource) : List String := spaced (serviceBlocks source.services)

variable {source : ProxySource}

theorem lines_eq_head_append_body (declares : source.services ≠ []) :
    source.lines = source.head ++ source.body := by
  obtain ⟨first, rest, services⟩ := List.exists_cons_of_ne_nil declares
  simp [lines, blocks, headerLines, packageLines, importLines, head, importLine, body, services,
    serviceBlocks, ServiceProxy.blocks, spaced]

private theorem mem_spaced {blocks : List (List String)} {block : List String}
    (member : block ∈ blocks) (inBlock : line ∈ block) : line ∈ spaced blocks := by
  induction blocks with
  | nil => simp at member
  | cons first rest induction =>
      cases rest with
      | nil =>
          obtain rfl : block = first := by simpa using member
          exact inBlock
      | cons next rest =>
          rw [spaced, List.mem_append]
          rcases List.mem_cons.mp member with rfl | later
          · exact .inl inBlock
          · exact .inr (List.mem_cons_of_mem _ (induction later))

private theorem exists_of_mem_spaced {blocks : List (List String)} (member : line ∈ spaced blocks) :
    line = "" ∨ ∃ block ∈ blocks, line ∈ block := by
  induction blocks with
  | nil => simp [spaced] at member
  | cons first rest induction =>
      cases rest with
      | nil => exact .inr ⟨first, List.mem_cons_self, member⟩
      | cons next rest =>
          rw [spaced, List.mem_append, List.mem_cons] at member
          rcases member with here | blank | later
          · exact .inr ⟨first, List.mem_cons_self, here⟩
          · exact .inl blank
          · obtain blank | ⟨block, inRest, inBlock⟩ := induction later
            · exact .inl blank
            · exact .inr ⟨block, List.mem_cons_of_mem _ inRest, inBlock⟩

private theorem head?_ne_of_mem_block (service : ServiceProxy) (isFirst : Bool)
    {block : List String} (member : block ∈ service.blocks isFirst) (inBlock : line ∈ block) :
    line.toList.head? ≠ some 'i' := by
  simp only [ServiceProxy.blocks, List.mem_append, List.mem_cons, List.not_mem_nil, or_false,
    List.mem_map] at member
  rcases member with (((rfl | rfl) | shared) | rfl) | ⟨method, _, rfl⟩
  · simp only [ServiceProxy.proxyLines, List.mem_append, List.mem_cons, List.not_mem_nil, or_false,
      List.mem_map] at inBlock
    rcases inBlock with ((rfl | rfl) | ⟨_, _, rfl⟩) | rfl <;> simp
  · simp only [ServiceProxy.serveLines, List.mem_cons, List.not_mem_nil, or_false] at inBlock
    rcases inBlock with rfl | rfl | rfl | rfl | rfl | rfl | rfl <;> simp
  · cases isFirst with
    | false => simp at shared
    | true =>
        obtain rfl := List.mem_singleton.mp shared
        obtain rfl := List.mem_singleton.mp inBlock
        simp
  · simp only [ServiceProxy.adapterLines, List.mem_cons, List.not_mem_nil, or_false] at inBlock
    rcases inBlock with rfl | rfl | rfl | rfl | rfl <;> simp
  · simp only [ServiceProxy.methodLines, List.mem_cons, List.not_mem_nil, or_false] at inBlock
    rcases inBlock with rfl | rfl | rfl | rfl | rfl | rfl | rfl | rfl <;> simp

theorem exists_of_mem_serviceBlocks {services : List ServiceProxy} {block : List String}
    (member : block ∈ serviceBlocks services) :
    ∃ service ∈ services, ∃ isFirst, block ∈ service.blocks isFirst := by
  cases services with
  | nil => simp [serviceBlocks] at member
  | cons first rest =>
      rw [serviceBlocks, List.mem_append, List.mem_flatMap] at member
      rcases member with here | ⟨service, inRest, later⟩
      · exact ⟨first, List.mem_cons_self, true, here⟩
      · exact ⟨service, List.mem_cons_of_mem _ inRest, false, later⟩

/-- Nothing is imported behind the import block. -/
theorem ne_import_of_mem_body (inBody : line ∈ source.body) (rest : String) :
    line ≠ "import" ++ rest := by
  rintro rfl
  rcases exists_of_mem_spaced inBody with blank | ⟨block, inBlocks, inBlock⟩
  · simp [← String.toList_inj] at blank
  · obtain ⟨service, _, isFirst, inService⟩ := exists_of_mem_serviceBlocks inBlocks
    exact head?_ne_of_mem_block service isFirst inService inBlock (by simp)

/-- The body declares the proxy of every service, the method that runs its servers and the adapter.
-/
theorem mem_body_of_service {service : ServiceProxy} (member : service ∈ source.services)
    {block : List String}
    (declared : block ∈ [service.proxyLines, service.serveLines, service.adapterLines])
    (inBlock : line ∈ block) : line ∈ source.body := by
  have blocks : ∃ isFirst, service.blocks isFirst ⊆ serviceBlocks source.services := by
    cases services : source.services with
    | nil => simp [services] at member
    | cons first rest =>
        rcases List.mem_cons.mp (services ▸ member) with rfl | later
        · exact ⟨true, List.subset_append_left _ _⟩
        · refine ⟨false, fun block inService => List.mem_append_right _ ?_⟩
          exact List.mem_flatMap.mpr ⟨service, later, inService⟩
  obtain ⟨isFirst, subset⟩ := blocks
  refine mem_spaced (subset ?_) inBlock
  simp only [List.mem_cons, List.not_mem_nil, or_false] at declared
  rcases declared with rfl | rfl | rfl <;> simp [ServiceProxy.blocks]

theorem mem_body_of_sentinel (declares : source.services ≠ [])
    (declared : line ∈ ServiceProxy.sentinelLines) : line ∈ source.body := by
  obtain ⟨first, rest, services⟩ := List.exists_cons_of_ne_nil declares
  refine mem_spaced ?_ declared
  simp [services, serviceBlocks, ServiceProxy.blocks]

/-- Lines as a text, each with a line feed behind it. -/
def written (lines : List String) : String := String.join (lines.map (· ++ "\n"))

theorem written_append (front back : List String) :
    written (front ++ back) = written front ++ written back := by
  simp [written]

theorem importLines_eq :
    source.importLines = ["import ("] ++ source.imports.map importLine ++ [")"] := rfl

private theorem eq_of_importLines {left right : List Import} {behindLeft behindRight : String}
    (paths : left.map (·.path) = right.map (·.path))
    (leftNamed : ∀ line ∈ left, ' ' ∉ line.qualifier.toList)
    (rightNamed : ∀ line ∈ right, ' ' ∉ line.qualifier.toList)
    (equal : written (left.map importLine) ++ behindLeft =
      written (right.map importLine) ++ behindRight) : left = right := by
  induction left generalizing right with
  | nil => exact (List.map_eq_nil_iff.mp paths.symm).symm
  | cons first left induction =>
      cases right with
      | nil => simp at paths
      | cons other right =>
          obtain ⟨qualifier, path⟩ := first
          obtain ⟨otherQualifier, otherPath⟩ := other
          obtain ⟨rfl, laterPaths⟩ : path = otherPath ∧
              left.map (·.path) = right.map (·.path) := by
            simpa using paths
          have spaced (qualifier : String) : importLine ⟨qualifier, path⟩ =
              "\t" ++ (qualifier ++ (" " ++ ("\"" ++ path ++ "\""))) := by
            have space : " \"" = " " ++ "\"" := rfl
            simp only [importLine, space, String.append_assoc]
          simp only [written, List.map_cons, String.join_cons, spaced, String.append_assoc,
            String.append_right_inj] at equal
          obtain ⟨rfl, behind⟩ := Text.append_separator_inj (leftNamed _ List.mem_cons_self)
            (rightNamed _ List.mem_cons_self) equal
          simp only [String.append_right_inj] at behind
          rw [induction laterPaths (fun line later => leftNamed line (List.mem_cons_of_mem _ later))
            (fun line later => rightNamed line (List.mem_cons_of_mem _ later)) behind]

/-- Texts of files of one package that import the same paths show under which aliases they do. -/
theorem imports_eq_of_text_eq {other : ProxySource} (declares : source.services ≠ [])
    (otherDeclares : other.services ≠ []) (packages : source.packageName = other.packageName)
    (paths : source.imports.map (·.path) = other.imports.map (·.path))
    (named : ∀ line ∈ source.imports, ' ' ∉ line.qualifier.toList)
    (otherNamed : ∀ line ∈ other.imports, ' ' ∉ line.qualifier.toList)
    (same : source.text = other.text) : source.imports = other.imports := by
  have cut {source : ProxySource} (declares : source.services ≠ []) :
      source.text = written (headerLines ++ "" :: source.packageLines ++ ["", "import ("]) ++
        (written (source.imports.map importLine) ++ written (")" :: "" :: source.body)) := by
    rw [← written_append, ← written_append, text, lines_eq_head_append_body declares, written]
    simp [head, headerLines, packageLines]
  rw [cut declares, cut otherDeclares, packageLines, packageLines, packages,
    String.append_right_inj] at same
  exact eq_of_importLines paths named otherNamed same

def IsComment (line : String) : Prop := ∃ text, line = "//" ++ text

private theorem not_isComment (start : String) (differs : start.toList.head?.any (· != '/'))
    (rest : String) : ¬IsComment (start ++ rest) := by
  rintro ⟨text, equal⟩
  cases letters : start.toList with
  | nil => simp [letters] at differs
  | cons first _ =>
      have same : first = '/' := by
        simpa [letters] using congrArg (fun line => line.toList.head?) equal
      simp [letters, same] at differs

private theorem exists_line_of_field {service : ServiceProxy} (inSource : service ∈ source.services)
    {signature : Signature} (inService : signature ∈ service.methods)
    (refers : reference ∈ signature.references) :
    ∃ line ∈ source.body, ¬IsComment line ∧ reference.StandsIn line := by
  have field : "\t" ++ signature.name ++ " func" ++ signature.text ∈ service.proxyLines := by
    refine List.mem_append_left _ (List.mem_append_right _ ?_)
    exact List.mem_map.mpr ⟨signature, inService, rfl⟩
  refine ⟨_, mem_body_of_service inSource (by simp) field, ?_, ?_⟩
  · rw [String.append_assoc, String.append_assoc]
    exact not_isComment _ (by decide) _
  · simpa using (Signature.standsIn_text refers).within ("\t" ++ signature.name ++ " func") ""

private theorem exists_line_of_tab {after : String}
    (inBody : "\t" ++ (reference.text ++ after) ∈ source.body) :
    ∃ line ∈ source.body, ¬IsComment line ∧ reference.StandsIn line := by
  refine ⟨_, inBody, not_isComment _ (by decide) _, ?_⟩
  simpa [String.append_assoc] using reference.standsIn_of_mark '\t' (by decide) "" after

/-- Every reference of a file stands in a line of its body, not counting comments. -/
theorem exists_line_of_mem_references (refers : reference ∈ source.references) :
    ∃ line ∈ source.body, ¬IsComment line ∧ reference.StandsIn line := by
  obtain ⟨service, inSource, refers⟩ := List.mem_flatMap.mp refers
  rw [ServiceProxy.references, List.mem_cons, List.mem_cons, List.mem_flatMap] at refers
  rcases refers with rfl | rfl | ⟨signature, inService, refers⟩
  · have call : "\t" ++ (service.register.text ++ ("(srv, &" ++ (service.adapterName ++
        "\x7bproxy: p\x7d)"))) ∈ service.serveLines := by
      simp [ServiceProxy.serveLines, String.append_assoc]
    exact exists_line_of_tab (mem_body_of_service inSource (by simp) call)
  · have embedded : "\t" ++ (service.unimplemented.text ++ "") ∈ service.adapterLines := by
      simp [ServiceProxy.adapterLines]
    exact exists_line_of_tab (mem_body_of_service inSource (by simp) embedded)
  · exact exists_line_of_field inSource inService refers

/-- Whether a name is selected from the qualifier in a line of the body, not counting comments. -/
def Uses (source : ProxySource) (qualifier : String) : Prop :=
  ∃ line ∈ source.body, ¬IsComment line ∧ ∃ name, IsWritten (qualifier ++ "." ++ name) line

variable {qualifier name : String}

theorem uses_of_mem_references (refers : ⟨some qualifier, name⟩ ∈ source.references) :
    source.Uses qualifier := by
  obtain ⟨line, inBody, code, stands⟩ := exists_line_of_mem_references refers
  exact ⟨line, inBody, code, name, stands⟩

theorem uses_errors (declares : source.services ≠ []) : source.Uses "errors" := by
  refine ⟨_, mem_body_of_sentinel declares List.mem_cons_self, ?_, "New", ?_⟩
  · exact not_isComment "var " (by decide)
      "errNotSupported = errors.New(\"operation not supported\")"
  · exact Reference.standsIn_of_mark ⟨some "errors", "New"⟩ ' ' (by decide)
      "var errNotSupported =" "(\"operation not supported\")"

theorem uses_net (declares : source.services ≠ []) : source.Uses "net" := by
  obtain ⟨service, member⟩ := List.exists_mem_of_ne_nil _ declares
  have serve : "func (p *" ++ service.proxyName ++
      ") Serve(l net.Listener, opts ...grpc.ServerOption) error \x7b" ∈ service.serveLines := by
    simp [ServiceProxy.serveLines]
  refine ⟨_, mem_body_of_service member (by simp) serve, ?_, "Listener", ?_⟩
  · rw [String.append_assoc]
    exact not_isComment _ (by decide) _
  · have stands := (Reference.standsIn_of_mark ⟨some "net", "Listener"⟩ ' ' (by decide)
      ") Serve(l" ", opts ...grpc.ServerOption) error \x7b").within
        ("func (p *" ++ service.proxyName) ""
    rwa [String.append_empty] at stands

theorem uses_grpc (declares : source.services ≠ []) : source.Uses "grpc" := by
  obtain ⟨service, member⟩ := List.exists_mem_of_ne_nil _ declares
  have create : "\tsrv := grpc.NewServer(opts...)" ∈ service.serveLines := by
    simp [ServiceProxy.serveLines]
  refine ⟨_, mem_body_of_service member (by simp) create, ?_, "NewServer", ?_⟩
  · exact not_isComment "\t" (by decide) "srv := grpc.NewServer(opts...)"
  · exact Reference.standsIn_of_mark ⟨some "grpc", "NewServer"⟩ ' ' (by decide)
      "\tsrv :=" "(opts...)"

end ProxySource

end RpcProxy
