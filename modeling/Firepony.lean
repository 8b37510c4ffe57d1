import Firepony.TableFormatter
import Firepony.Covariates.Chain
import Firepony.Covariates.PackerQualityScore
import Firepony.PipelineStatistics
