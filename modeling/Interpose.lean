import Interpose.Instance
import Interpose.Main
import Interpose.Proofs.AliasSubscript
import Interpose.Proofs.Collection.Differences
import Interpose.Proofs.Collection.Initialization
import Interpose.Proofs.Collection.Synchronization
import Interpose.Proofs.ContainedFailure
import Interpose.Proofs.Delegation
import Interpose.Proofs.EndingConversion
import Interpose.Proofs.HintExpression
import Interpose.Proofs.LiteralDefault
import Interpose.Proofs.LiteralMembers
import Interpose.Proofs.Loading.FailedLoad
import Interpose.Proofs.Loading.Independence
import Interpose.Proofs.Loading.OneClass
import Interpose.Proofs.NullableHint
import Interpose.Proofs.PostponedHint
import Interpose.Proofs.QuotedHint
import Interpose.Proofs.ReadHint
import Interpose.Proofs.ReceiverKeyword
import Interpose.Proofs.RegroupedHint
import Interpose.Proofs.RenderedHint
import Interpose.Proofs.Rendering.ClassNames
import Interpose.Proofs.Rendering.LookUp
import Interpose.Proofs.Rendering.Refusal
import Interpose.Proofs.ReturnedResult
import Interpose.Proofs.Surface
import Interpose.Proofs.TargetName
