import ChromiumAdblock.Lib.Evidence
import ChromiumAdblock.Net.HandlerRuns
import ChromiumAdblock.Net.Verdict
import ChromiumAdblock.Net.ProxyProgress
import ChromiumAdblock.Net.ProxyLegs
import ChromiumAdblock.Net.ProxyBlocking
import ChromiumAdblock.Net.ProxyProtocol
import ChromiumAdblock.Net.ProfileProtocol
import ChromiumAdblock.Net.WebSocketProgress
import ChromiumAdblock.Shields.ResourceRuns
import ChromiumAdblock.Shields.CurrentFilters
import ChromiumAdblock.Shields.CachedLists
import ChromiumAdblock.Shields.FilterSets
import ChromiumAdblock.Shields.CacheOutcomes
import ChromiumAdblock.Shields.StoreLists
import ChromiumAdblock.Shields.ResourcesFresh
import ChromiumAdblock.Shields.DomainBlockRuns
import ChromiumAdblock.Shields.CosmeticFilters
import ChromiumAdblock.Engine.RendererInput
import ChromiumAdblock.Net.CspDirectives
import ChromiumAdblock.Engine.EngineSwaps
import ChromiumAdblock.Shields.UpdateSchedule
import ChromiumAdblock.Shields.DownloadAccounts
import ChromiumAdblock.Cosmetic.DocumentIsolation
import ChromiumAdblock.Cosmetic.FetchThrottle
import ChromiumAdblock.Cosmetic.InjectedSelectors
import ChromiumAdblock.Cosmetic.IncrementalFiltering
import ChromiumAdblock.Engine.ProceduralStrip
import ChromiumAdblock.Cosmetic.OperatorArguments
import ChromiumAdblock.Cosmetic.CssCombinators
import ChromiumAdblock.Cosmetic.PickedUniquely
import ChromiumAdblock.Shields.PagesCurrent
import ChromiumAdblock.Shields.ScriptletPage
import ChromiumAdblock.Shields.CachedSessions
import ChromiumAdblock.Cosmetic.ProceduralStyles
