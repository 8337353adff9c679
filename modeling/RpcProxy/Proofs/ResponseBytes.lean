import RpcProxy.Proofs.Wire
import RpcProxy.Response.Wire

/-!
# The bytes of a response determine it

Every field of a response is read back as it was written, set or unset, and so is every file in it.
-/

namespace RpcProxy

open Wire

theorem ResponseFile.restores (budget : Nat) (file : ResponseFile) :
    Restores (readField budget) {} file.encode file := by
  have name := Restores.option (by decide) (readField budget) file.name
    (fun name => { name := name }) (fun name _ => .text 1 name) fun _ => rfl
  have content := Restores.option (by decide) (readField budget) file.content
    (fun content => { file with content := content })
    (fun content _ => .text 15 content) fun _ => rfl
  exact name.append content

theorem Response.restores (budget : Nat) (response : Response) :
    Restores (readField (budget + 1)) {} response.encode response := by
  have error := Restores.option (by decide) (readField (budget + 1)) response.error
    (fun error => { error := error }) (fun error _ => .text 1 error) fun _ => rfl
  have features := Restores.option (by decide) (readField (budget + 1)) response.supportedFeatures
    (fun features => { error := response.error, supportedFeatures := features })
    (fun features _ => .uint64 2 features) fun _ => rfl
  have minimum := Restores.option (by decide) (readField (budget + 1)) response.minimumEdition
    (fun edition => { response with
      minimumEdition := edition, maximumEdition := none, files := [] })
    (fun edition _ => .int32 3 edition) fun _ => rfl
  have maximum := Restores.option (by decide) (readField (budget + 1)) response.maximumEdition
    (fun edition => { response with maximumEdition := edition, files := [] })
    (fun edition _ => .int32 4 edition) fun _ => rfl
  have files := Restores.list (by decide) (readField (budget + 1)) response.files
    (fun files => { response with files := files })
    (fun file _ => .message 15 (file.restores budget)) fun _ _ => rfl
  exact (((error.append features).append minimum).append maximum).append files

/-- A response is read back from its bytes as it was, and no other response has the same bytes. The
bytes are in memory, where a number of 64 bits counts them. -/
theorem Response.survives_encoding (response : Response)
    (countable : response.encode.length < UInt64.size) :
    Response.decode response.encode = .ok response ∧
      ∀ other : Response, other.encode = response.encode → other = response := by
  have readBack : ∀ one : Response, one.encode = response.encode →
      Response.decode response.encode = .ok one := by
    intro one same
    rw [← same] at countable ⊢
    exact readAll_of_restores (one.restores 99) countable
  have read := readBack response rfl
  refine ⟨read, fun other same => ?_⟩
  rw [readBack other same, Except.ok.injEq] at read
  exact read

/-- A response with empty, unset and extreme fields, and a content whose length takes two bytes. -/
def Response.extreme : Response where
  error := some ""
  supportedFeatures := some 0xFFFFFFFFFFFFFFFF
  minimumEdition := some (-1)
  maximumEdition := some 0
  files := [{}, { name := some "", content := some "π ≠ ∅" },
    { content := some (String.ofList (List.replicate 128 'a')) }]

theorem Response.survives_encoding_extreme :
    extreme.encode.length < UInt64.size ∧ Response.decode extreme.encode = .ok extreme ∧
      ∀ other : Response, other.encode = extreme.encode → other = extreme := by
  have countable : extreme.encode.length < UInt64.size := by decide +kernel
  exact ⟨countable, survives_encoding extreme countable⟩

end RpcProxy
