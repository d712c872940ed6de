import CipherMeta.Basic
import CipherMeta.Exec
import CipherMeta.Dispatch
import CipherMeta.TypeTest
import CipherMeta.Calls
import CipherMeta.Honest
import CipherMeta.Usage
import CipherMeta.Conformance
import CipherMeta.BitsPerSecond
import CipherMeta.BenchUsage
import CipherMeta.Benchmark
import CipherMeta.Complete
import CipherMeta.SelfTestGaps
import CipherMeta.Soundness
import CipherMeta.TrialKeys
import CipherMeta.InBounds
