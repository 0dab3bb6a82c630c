import DataDistribution.Base.StdMap
import DataDistribution.DataModel.SubTimeFrame
import DataDistribution.DataModel.Merge
import DataDistribution.Common.FileSink
import DataDistribution.Common.ReadoutBuilder
import DataDistribution.Common.TopoBuilder
import DataDistribution.Common.AdaptHeaders
import DataDistribution.Common.AdaptHeadersRuns
import DataDistribution.Common.StfFileName
import DataDistribution.TfBuilder.Input
import DataDistribution.TfBuilder.InputRuns
import DataDistribution.Discovery.PartitionRequest
import DataDistribution.Discovery.Tunables
import DataDistribution.StfSender.RegionLookup
import DataDistribution.TfScheduler.ConnManager
import DataDistribution.TfScheduler.DropWait
import DataDistribution.TfScheduler.PartitionState
import DataDistribution.TfScheduler.Instance
import DataDistribution.Ucx.MultiReq
import DataDistribution.Ucx.TagChannel
