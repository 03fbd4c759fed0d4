import SriovFec.Api.V1
import SriovFec.Controller.Store
import SriovFec.Controller.Client
import SriovFec.Controller.Render
import SriovFec.Controller.Sync
import SriovFec.Controller.Frame
import SriovFec.Controller.Trace
import SriovFec.Controller.Reconcile
import SriovFec.Controller.Pass
import SriovFec.Controller.Faultless
import SriovFec.Controller.Created
import SriovFec.Controller.Convergence
import SriovFec.Controller.Stability
import SriovFec.Controller.CallOrder
import SriovFec.Controller.Gate
import SriovFec.Controller.Outcome
import SriovFec.Controller.Requests
import SriovFec.Api.V2
import SriovFec.Daemon.Host
import SriovFec.Daemon.BBDevConfig
import SriovFec.Daemon.PfBBConfig
