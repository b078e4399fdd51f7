import MiniWasm.Validator.Module
import MiniWasm.Spec.Typing
import MiniWasm.Validator.Decoding
import MiniWasm.Library.Arena
import MiniWasm.Library.Overwrite
import MiniWasm.Library.Reading
import MiniWasm.Library.Trampoline
import MiniWasm.Runtime.Activation
import MiniWasm.Runtime.Agreement
import MiniWasm.Runtime.Errors
import MiniWasm.Runtime.Recursion
import MiniWasm.Library.Action
import MiniWasm.Library.Metering
import MiniWasm.Library.Position
import MiniWasm.Runtime.Fuel
import MiniWasm.Wasi.Abi
import MiniWasm.Wasi.Attenuation
import MiniWasm.Runtime.HostCalls
import MiniWasm.Runtime.BulkLaw
import MiniWasm.Runtime.Matching
import MiniWasm.Wasi.Closing
import MiniWasm.Wasi.Confinement
import MiniWasm.Wasi.FileCalls
import MiniWasm.Wasi.Listing
import MiniWasm.Wasi.Metadata
import MiniWasm.Wasi.Refusals
import MiniWasm.Wasi.Removed
import MiniWasm.Wasi.Resources
import MiniWasm.Wasi.Reach
import MiniWasm.Parser.Correctness
import MiniWasm.Runtime.Coherence
import MiniWasm.Runtime.LaneLaw
import MiniWasm.Runtime.Ownership
import MiniWasm.Runtime.Refinement
