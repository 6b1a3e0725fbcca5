import Protohackers.SpeedDaemon.Registry
import Protohackers.SpeedDaemon.Cameras
import Protohackers.SpeedDaemon.SessionLegality
import Protohackers.SpeedDaemon.ActorRun
import Protohackers.SpeedDaemon.ServerCameras
import Protohackers.SpeedDaemon.ServerChannels
import Protohackers.SpeedDaemon.ServerRegistry
import Protohackers.SpeedDaemon.ServerRoads
import Protohackers.SpeedDaemon.ServerFailure
import Protohackers.SpeedDaemon.ServerDispatchers
import Protohackers.SpeedDaemon.ServerOutput
import Protohackers.MeansToAnEnd.Query
