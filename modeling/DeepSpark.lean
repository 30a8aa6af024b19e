import DeepSpark.Request.Tenants
import DeepSpark.Request.Incremental
import DeepSpark.Coordinator.LookAhead
import DeepSpark.Scheduler.InvalidBlocks
import DeepSpark.Scheduler.Drafts
import DeepSpark.Scheduler.Loras
import DeepSpark.Manager.Accounts
import DeepSpark.Worker.LosslessVerification
import DeepSpark.Worker.DraftAssembly
import DeepSpark.Worker.DraftSlots
import DeepSpark.Worker.VerifyLengths
import DeepSpark.Worker.DraftSeeds
import DeepSpark.Worker.NgramKernel
import DeepSpark.Worker.BadWords
import DeepSpark.Worker.LogitBias
import DeepSpark.Worker.SlotRuns
import DeepSpark.Offload.CpuRuns
import DeepSpark.Broadcast.InUse
import DeepSpark.Worker.GrammarBitmask
import DeepSpark.Worker.GraphDispatch
import DeepSpark.Worker.DataParallel
import DeepSpark.Worker.PenaltyRuns
import DeepSpark.Offload.Eviction
import DeepSpark.Output.StreamRuns
import DeepSpark.Eplb.Rearrangement
import DeepSpark.Eplb.SlotPreservation
import DeepSpark.StructuredOutput.ReasoningEnd
import DeepSpark.Parser.Streaming
import DeepSpark.Attention.IndexerPrefill
import DeepSpark.Attention.LocalAttention
import DeepSpark.Attention.NoncausalContiguous
import DeepSpark.Attention.SparsePageTable
import DeepSpark.Layers.VirtualTp
import DeepSpark.Layers.VocabEmbedding
import DeepSpark.Worker.PromptLogprobsRuns
import DeepSpark.Manager.ReplayTails
import DeepSpark.Parser.DsmlChunks
import DeepSpark.Worker.BatchOrder
import DeepSpark.Scheduler.Examined
import DeepSpark.Manager.LookupHits
