import RpcProxy.Proofs.References

/-!
# The import block

Go rejects a file that imports too little and one that imports too much. The import block of a
generated file has one line for each path the file has to import, and the body of a file that has a
package with an import path uses every line.
-/

namespace RpcProxy.ProtoFile

variable {file : ProtoFile} {options : Options} {source : ProxySource}

private theorem uses_of_refersTo (generated : file.proxySource options = .ok source)
    {ident : Identifier} (refersTo : file.RefersTo ident) {qualifier : String}
    (foreign : ident.importPath ≠ file.localPath options)
    (found : (file.scope options).imports.aliasOf? ident.importPath = some qualifier) :
    source.Uses qualifier := by
  have notLocal : ident.importPath ≠ (file.scope options).localPath := foreign
  have qualified : (file.scope options).refer ident = ⟨some qualifier, ident.name⟩ := by
    rw [Scope.refer, if_neg notLocal, found]
  exact ProxySource.uses_of_mem_references
    ((mem_references_iff generated).mpr (.inl ⟨ident, refersTo, qualified.symm⟩))

/-- A generated file uses the alias of every path it has to import, if its own package is reached
under an import path. -/
theorem uses_of_imports (generated : file.proxySource options = .ok source)
    (declares : file.services ≠ [])
    (ownPath : options.standalone = true → file.importPath ≠ "") {path qualifier : String}
    (imports : file.Imports options path)
    (found : (file.scope options).imports.aliasOf? path = some qualifier) :
    source.Uses qualifier := by
  have proxies := services_ne_nil generated declares
  cases imports with
  | @context method member unary =>
      rw [aliasOf?_context member unary, Option.some.injEq] at found
      subst found
      exact ProxySource.uses_of_mem_references
        ((mem_references_iff generated).mpr (.inr (.inl ⟨⟨method, member, unary⟩, rfl⟩)))
  | errors =>
      rw [aliasOf?_errors, Option.some.injEq] at found
      exact found ▸ ProxySource.uses_errors proxies
  | net =>
      rw [aliasOf?_net, Option.some.injEq] at found
      exact found ▸ ProxySource.uses_net proxies
  | grpc =>
      rw [aliasOf?_grpc, Option.some.injEq] at found
      exact found ▸ ProxySource.uses_grpc proxies
  | @empty message spells empty =>
      rw [aliasOf?_emptyPath spells empty, Option.some.injEq] at found
      subst found
      exact ProxySource.uses_of_mem_references
        ((mem_references_iff generated).mpr (.inr (.inr (.inl ⟨⟨message, spells, empty⟩, rfl⟩))))
  | own standalone =>
      obtain ⟨service, rest, services⟩ := List.exists_cons_of_ne_nil declares
      have foreign : file.importPath ≠ file.localPath options := by
        simpa [localPath, standalone] using ownPath standalone
      exact uses_of_refersTo generated (.register (services ▸ List.mem_cons_self)) foreign found
  | message spells notEmpty foreign =>
      exact uses_of_refersTo generated (.message spells notEmpty) foreign found

/-- The import block of a generated file is exact, and there is no other: it lists each path that
the file has to import once, by ascending path and under an alias of its own. In the file's own
package, and in one that reaches it under an import path, the body selects a name from every alias.
-/
theorem import_block_exact {output : OutputFile}
    (written : file.output options = .ok (some output)) :
    ∃ source, file.proxySource options = .ok source ∧
      output.content = String.join ((["// Code generated by protoc-gen-grpcproxy. DO NOT EDIT.", "",
          "package " ++ source.packageName, "", "import ("] ++
            (source.imports.map fun line => "\t" ++ line.qualifier ++ " \"" ++ line.path ++ "\"") ++
              [")", ""] ++ source.body).map (· ++ "\n")) ∧
      (∀ line ∈ source.body, ∀ rest, line ≠ "import" ++ rest) ∧
      (source.imports.Pairwise fun earlier later => earlier.path < later.path) ∧
      (source.imports.map (·.qualifier)).Nodup ∧
      (∀ path, path ∈ source.imports.map (·.path) ↔ file.Imports options path) ∧
      ((options.standalone = true → file.importPath ≠ "") →
        ∀ line ∈ source.imports, source.Uses line.qualifier) := by
  obtain ⟨declares, _, source, generated, text⟩ := output_eq_ok_some_iff.mp written
  have imports : source.imports = (file.scope options).imports.imports := by
    obtain ⟨_, _, rfl⟩ := proxySource_eq_ok_iff.mp generated
    rfl
  refine ⟨source, generated, ?_, fun line inBody => ProxySource.ne_import_of_mem_body inBody, ?_,
    ?_, fun path => ?_, fun ownPath line member => ?_⟩
  · rw [← text, ProxySource.text,
      ProxySource.lines_eq_head_append_body (services_ne_nil generated declares)]
    rfl
  · rw [imports]
    exact ImportTable.pairwise_imports _
  · rw [imports]
    exact ImportTable.Distinct.nodup_qualifiers (distinct_scope file options)
  · rw [imports, ImportTable.mem_map_path_imports_iff, isSome_aliasOf?_scope_iff]
  · rw [imports, ImportTable.mem_imports_iff] at member
    have needed := isSome_aliasOf?_scope_iff.mp (Option.isSome_of_eq_some member)
    exact uses_of_imports generated declares ownPath needed member

/-- The text down to the body, and a line of the body that needs an import. -/
theorem import_block_exact_greeter :
    ∃ output source body, greeter.output {} = .ok (some output) ∧
      output.content = String.join (["// Code generated by protoc-gen-grpcproxy. DO NOT EDIT.", "",
        "package greeter", "", "import (", "\tcontext \"context\"", "\terrors \"errors\"",
        "\tnet1 \"example.com/net\"", "\tgrpc \"google.golang.org/grpc\"",
        "\temptypb \"google.golang.org/protobuf/types/known/emptypb\"", "\tnet \"net\"", ")",
        ""].map (· ++ "\n")) ++ body ∧
      greeter.proxySource {} = .ok source ∧
      "\tGreet func(ctx context.Context, req *net1.Name) (*emptypb.Empty, error)" ∈ source.body ∧
      (∀ line ∈ source.body, ∀ rest, line ≠ "import" ++ rest) ∧
      ∀ qualifier ∈ ["context", "errors", "net1", "grpc", "emptypb", "net"],
        source.Uses qualifier := by
  obtain ⟨output, written⟩ : ∃ output, greeter.output {} = .ok (some output) := by
    refine ⟨⟨_, _⟩, output_eq_ok_some_iff.mpr ⟨by decide, rfl, _, rfl, rfl⟩⟩
  obtain ⟨other, same, package, imports, declared⟩ : ∃ source, greeter.proxySource {} = .ok source ∧
      source.packageName = "greeter" ∧
      source.imports = [⟨"context", "context"⟩, ⟨"errors", "errors"⟩, ⟨"net1", "example.com/net"⟩,
        ⟨"grpc", "google.golang.org/grpc"⟩,
        ⟨"emptypb", "google.golang.org/protobuf/types/known/emptypb"⟩, ⟨"net", "net"⟩] ∧
      "\tGreet func(ctx context.Context, req *net1.Name) (*emptypb.Empty, error)" ∈ source.body :=
    Except.exists_eq_ok_and (by decide +kernel)
  obtain ⟨source, generated, text, onlyOne, _, _, _, uses⟩ := import_block_exact written
  obtain rfl : source = other := Except.ok.inj (generated.symm.trans same)
  refine ⟨output, source, String.join (source.body.map (· ++ "\n")), written, ?_, generated,
    declared, onlyOne, ?_⟩
  · rw [text, package, imports, List.map_append, String.join_append]
    rfl
  · have used := uses (by decide)
    rw [imports] at used
    simpa using used

end RpcProxy.ProtoFile
