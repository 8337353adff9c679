import RpcProxy.Descriptor.Write
import RpcProxy.LinkedRequest
import RpcProxy.Main
import RpcProxy.Proofs.GoName
import RpcProxy.Proofs.Bytes
import RpcProxy.Proofs.ImportTable
import RpcProxy.Proofs.Signature
import RpcProxy.Proofs.Scope
import RpcProxy.Proofs.Except
import RpcProxy.Proofs.References
import RpcProxy.Proofs.ImportBlock
import RpcProxy.Proofs.MethodOrder
import RpcProxy.Proofs.Linking
import RpcProxy.Proofs.Schema
import RpcProxy.Proofs.Conversion
import RpcProxy.Proofs.Response
import RpcProxy.Proofs.OutputName
import RpcProxy.Proofs.FileTree
import RpcProxy.Proofs.Save
import RpcProxy.Proofs.Declarations
import RpcProxy.Proofs.Reading
import RpcProxy.Proofs.Blocks
import RpcProxy.Proofs.Mirror
import RpcProxy.Proofs.Wire
import RpcProxy.Proofs.ResponseBytes
import RpcProxy.Proofs.RequestBytes
import RpcProxy.Proofs.ErrorContract
import RpcProxy.Proofs.Relinking
import RpcProxy.Proofs.Mapping
import RpcProxy.Proofs.Editions
import RpcProxy.Proofs.Package
import RpcProxy.Proofs.Standalone
import RpcProxy.Proofs.Members
import RpcProxy.Proofs.Capture
import RpcProxy.Proofs.ImportCalls
import RpcProxy.Proofs.TypeNames
import RpcProxy.Proofs.StreamedMessages
import RpcProxy.Proofs.SignatureOrder
import RpcProxy.Proofs.Parameter
import RpcProxy.Proofs.HandOver
import RpcProxy.Proofs.ModuleRoot
import RpcProxy.Proofs.SavedTree
import RpcProxy.Proofs.NestedNames
import RpcProxy.Proofs.ExportedNames
import RpcProxy.Proofs.Identifiers
import RpcProxy.Proofs.Stem
import RpcProxy.Proofs.ExportedPass
import RpcProxy.Proofs.UnexportedPass
