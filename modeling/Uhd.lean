import Uhd.Convert.Common
import Uhd.Convert.Item32
import Uhd.Convert.Item16
import Uhd.Usrp1.Caps
import Uhd.Usrp1.Find
import Uhd.Usrp1.Dboard
import Uhd.PropertyTree
import Uhd.Usrp1.Impl
import Uhd.Usrp1.ImplPaths
import Uhd.Usrp1.ImplRun
import Uhd.Usrp1.ImplCalls
import Uhd.Usrp1.ImplFrontends
import Uhd.Usrp1.ImplGet
