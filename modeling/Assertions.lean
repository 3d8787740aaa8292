import Assertions.Demo
import Assertions.Event.Assortment
import Assertions.Main
import Assertions.Script.Report
import Assertions.Proofs.Effects
import Assertions.Proofs.Lexical
import Assertions.Proofs.LexicalScoping
import Assertions.Proofs.AssertionContract
import Assertions.Proofs.Changes
import Assertions.Proofs.Captures
import Assertions.Proofs.Listening
import Assertions.Proofs.Brackets
import Assertions.Proofs.Liveness
import Assertions.Proofs.Growth
import Assertions.Proofs.Parallel
import Assertions.Proofs.Reach
import Assertions.Proofs.History
import Assertions.Proofs.Counterparts
import Assertions.Proofs.Harness
import Assertions.Proofs.Reporting
import Assertions.Proofs.Payloads
import Assertions.Proofs.Overflow
import Assertions.Proofs.CStrings
import Assertions.Proofs.Distinction
import Assertions.Proofs.Installation
import Assertions.Proofs.Isolation
import Assertions.Proofs.ReadBack
import Assertions.Proofs.Retrieval
import Assertions.Proofs.FirstInstaller
