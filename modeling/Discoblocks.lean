import Discoblocks.Float64
import Discoblocks.Basic
import Discoblocks.Metrics
import Discoblocks.Monitor.Scrape
import Discoblocks.Monitor.Resize
import Discoblocks.Monitor.Cycle
import Discoblocks.Monitor.Properties
import Discoblocks.Controller.Mirror
import Discoblocks.Mutator.Properties
import Discoblocks.Mutator.Admission
import Discoblocks.Jobs.Properties
import Discoblocks.Lifecycle
